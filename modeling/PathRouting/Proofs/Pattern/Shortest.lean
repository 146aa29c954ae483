/-
  The shortest form of templates.

  * `Template.Shortest`: a sequence has several parts, none of them a sequence, and no two
    literals side by side; a choice has several branches, none of them a choice, and a literal
    only as the last one; a fallback is no literal. `Template.AllShortest`: that is so of all
    templates in a template.
  * `Template.allShortest_sequence`, `Template.allShortest_select`: sequences and choices of such
    templates are such templates. `Node.lower_shortest`: so is what lowering makes.
  * `Template.sequenceByStack_eq`: on such templates, a stack comes to the same sequence.
    `Node.lower_byStack`: so lowering may use one.
  * `Template.Normal.isLiteral_iff`: what is built is the same under all bindings exactly if the
    template is literal text. `Node.lower_variable_fallback`: so a variable falls back on its
    constraint exactly if the text of that depends on the bindings.
  * `ofNode_shortest`: the builders of patterns.
-/
import PathRouting.Proofs.Pattern.Optional
import PathRouting.Proofs.Route.Grouping

namespace PathRouting.Pattern

namespace Template

variable {s t u : Template} {ts us joined stack : List Template}

/-- Whether a template is a sequence. -/
def isConcat : Template → Bool
  | .concat _ => true
  | _ => false

/-- Whether a template is a choice. -/
def isChoice : Template → Bool
  | .choice _ => true
  | _ => false

/-- Whether a template is in shortest form, apart from the templates in it. -/
def Shortest : Template → Prop
  | .literal _ | .parameter _ none => True
  | .concat ts => 2 ≤ ts.length ∧ (∀ t ∈ ts, t.isConcat = false) ∧
      ts.IsChain fun t u => ¬(t.isLiteral ∧ u.isLiteral)
  | .choice ts => 2 ≤ ts.length ∧ (∀ t ∈ ts, t.isChoice = false) ∧
      ∀ t ∈ ts.dropLast, t.isLiteral = false
  | .parameter _ (some fallback) => fallback.isLiteral = false

instance : DecidablePred Shortest
  | .literal _ | .parameter _ none => inferInstanceAs (Decidable True)
  | .concat _ | .choice _ => inferInstanceAs (Decidable (_ ∧ _ ∧ _))
  | .parameter _ (some _) => inferInstanceAs (Decidable (_ = _))

/-! ## All templates in a template -/

mutual

/-- A template and all templates in it. -/
def nodes : Template → List Template
  | .literal value => [.literal value]
  | .concat ts => .concat ts :: nodesOf ts
  | .choice ts => .choice ts :: nodesOf ts
  | .parameter name none => [.parameter name none]
  | .parameter name (some fallback) => .parameter name (some fallback) :: fallback.nodes

/-- Several templates and all templates in them. -/
def nodesOf : List Template → List Template
  | [] => []
  | t :: ts => t.nodes ++ nodesOf ts

end

theorem mem_nodesOf : s ∈ nodesOf ts ↔ ∃ t ∈ ts, s ∈ t.nodes := by
  induction ts with
  | nil => simp [nodesOf]
  | cons t ts ih => simp [nodesOf, ih]

mutual

/-- What is in a template is in each one that it is in. -/
theorem nodes_subset : ∀ t : Template, s ∈ t.nodes → s.nodes ⊆ t.nodes
  | .literal _, h | .parameter _ none, h => by
    rw [List.mem_singleton.1 h]
    exact List.Subset.refl _
  | .concat ts, h | .choice ts, h => by
    rcases List.mem_cons.1 h with rfl | h
    · exact List.Subset.refl _
    · exact List.subset_cons_of_subset _ (nodesOf_subset ts h)
  | .parameter _ (some fallback), h => by
    rcases List.mem_cons.1 h with rfl | h
    · exact List.Subset.refl _
    · exact List.subset_cons_of_subset _ (nodes_subset fallback h)

theorem nodesOf_subset : ∀ ts : List Template, s ∈ nodesOf ts → s.nodes ⊆ nodesOf ts
  | t :: ts, h => by
    rcases List.mem_append.1 h with h | h
    · exact List.subset_append_of_subset_left _ (nodes_subset t h)
    · exact List.subset_append_of_subset_right _ (nodesOf_subset ts h)

end

/-- Whether all templates in a template are in shortest form. -/
def AllShortest (t : Template) : Prop :=
  ∀ s ∈ t.nodes, s.Shortest

theorem AllShortest.of_mem (h : t.AllShortest) (hs : s ∈ t.nodes) : s.AllShortest :=
  fun u hu => h u (nodes_subset t hs hu)

theorem allShortest_literal (value : Text) : (literal value).AllShortest :=
  List.forall_mem_singleton.2 trivial

theorem forall_mem_nodesOf : (∀ s ∈ nodesOf ts, s.Shortest) ↔ ∀ t ∈ ts, t.AllShortest := by
  simp only [mem_nodesOf, AllShortest]
  exact ⟨fun h t ht s hs => h s ⟨t, ht, hs⟩, fun h s ⟨t, ht, hs⟩ => h t ht s hs⟩

theorem allShortest_concat :
    (concat ts).AllShortest ↔ (concat ts).Shortest ∧ ∀ t ∈ ts, t.AllShortest := by
  rw [AllShortest, nodes, List.forall_mem_cons, forall_mem_nodesOf]

theorem allShortest_choice :
    (choice ts).AllShortest ↔ (choice ts).Shortest ∧ ∀ t ∈ ts, t.AllShortest := by
  rw [AllShortest, nodes, List.forall_mem_cons, forall_mem_nodesOf]

/-- A parameter whose fallback is in shortest form and no literal. -/
theorem allShortest_parameter {name : Text} {fallback : Option Template}
    (h : ∀ t ∈ fallback, t.isLiteral = false ∧ t.AllShortest) :
    (parameter name fallback).AllShortest := by
  cases fallback with
  | none => exact List.forall_mem_singleton.2 trivial
  | some t =>
    obtain ⟨hl, ht⟩ := h t rfl
    exact List.forall_mem_cons.2 ⟨hl, ht⟩

/-! ## Sequences -/

theorem AllShortest.parts (h : t.AllShortest) :
    ∀ u ∈ t.parts, u.AllShortest ∧ u.isConcat = false := by
  cases t with
  | concat ts =>
    obtain ⟨⟨-, hflat, -⟩, hts⟩ := allShortest_concat.1 h
    exact fun u hu => ⟨hts u hu, hflat u hu⟩
  | _ => exact List.forall_mem_singleton.2 ⟨h, rfl⟩

theorem two_le_length (hnil : ts = [] → False) (hone : ∀ t, ts = [t] → False) : 2 ≤ ts.length := by
  match ts with
  | [] => exact (hnil rfl).elim
  | [t] => exact (hone t rfl).elim
  | _ :: _ :: _ => simp

/-- **Sequences** of templates in shortest form are in shortest form. -/
theorem allShortest_sequence (h : ∀ t ∈ ts, t.AllShortest) : (sequence ts).AllShortest := by
  have hparts : ∀ u ∈ ts.flatMap Template.parts, u.AllShortest ∧ u.isConcat = false := by
    intro u hu
    obtain ⟨t, ht, hu⟩ := List.mem_flatMap.1 hu
    exact (h t ht).parts u hu
  have hjoined := forall_mem_joinLiterals (P := fun t => t.AllShortest ∧ t.isConcat = false)
    (fun value => ⟨allShortest_literal value, rfl⟩) hparts
  unfold sequence
  split
  case h_1 => exact allShortest_literal []
  case h_2 t ht => exact (hjoined t (ht ▸ List.mem_singleton_self t)).1
  case h_3 hnil hone =>
    exact allShortest_concat.2 ⟨⟨two_le_length hnil hone, fun t ht => (hjoined t ht).2,
      isChain_joinLiterals _⟩, fun t ht => (hjoined t ht).1⟩

/-! ## Choices -/

theorem AllShortest.branches (h : t.AllShortest) :
    ∀ u ∈ t.branches, u.AllShortest ∧ u.isChoice = false := by
  cases t with
  | choice ts =>
    obtain ⟨⟨-, hflat, -⟩, hts⟩ := allShortest_choice.1 h
    exact fun u hu => ⟨hts u hu, hflat u hu⟩
  | _ => exact List.forall_mem_singleton.2 ⟨h, rfl⟩

theorem untilLiteral_subset (ts : List Template) : untilLiteral ts ⊆ ts := by
  induction ts with
  | nil => exact List.Subset.refl _
  | cons t ts ih =>
    rw [untilLiteral]
    split_ifs
    · exact List.cons_subset_cons t (List.nil_subset ts)
    · exact List.cons_subset_cons t ih

/-- Only the last branch up to the first literal may be a literal. -/
theorem isLiteral_eq_false_of_mem_dropLast (ts : List Template) :
    ∀ t ∈ (untilLiteral ts).dropLast, t.isLiteral = false := by
  induction ts with
  | nil => exact List.forall_mem_nil _
  | cons t ts ih =>
    rw [untilLiteral]
    split_ifs with hl
    · exact List.forall_mem_nil _
    · cases hu : untilLiteral ts with
      | nil => exact List.forall_mem_nil _
      | cons u us =>
        rw [List.dropLast_cons_cons, ← hu]
        exact List.forall_mem_cons.2 ⟨Bool.eq_false_iff.2 hl, ih⟩

/-- **Choices** of templates in shortest form are in shortest form. -/
theorem allShortest_select (h : ∀ t ∈ ts, t.AllShortest) (ht : t ∈ select? ts) :
    t.AllShortest := by
  have huntil : ∀ u ∈ untilLiteral (ts.flatMap Template.branches),
      u.AllShortest ∧ u.isChoice = false := by
    intro u hu
    obtain ⟨s, hs, hu⟩ := List.mem_flatMap.1 (untilLiteral_subset _ hu)
    exact (h s hs).branches u hu
  unfold select? at ht
  split at ht
  case h_1 => cases ht
  case h_2 u hu =>
    cases ht
    exact (huntil t (hu ▸ List.mem_singleton_self t)).1
  case h_3 hnil hone =>
    cases ht
    exact allShortest_choice.2 ⟨⟨two_le_length hnil hone, fun u hu => (huntil u hu).2,
      isLiteral_eq_false_of_mem_dropLast _⟩, fun u hu => (huntil u hu).1⟩

/-- The literal of an inner choice ends the outer one. -/
example : (select? [.choice [.parameter ['x'] none, .literal ['a']], .parameter ['y'] none]).any
    fun t => t.Shortest := by decide

end Template

/-! ## From trees to templates -/

namespace Node

mutual

/-- **Lowering.** The template of a tree is in shortest form throughout. -/
theorem lower_shortest : ∀ (n : Node) {inVariable optional : Bool} {ps qs : List Parameter}
    {t : Option Template}, n.lower inVariable optional ps = .ok (t, qs) →
      ∀ s ∈ t, s.AllShortest
  | .path _ absolute segments, _, _, _, _, _, h, s, hs => by
    obtain ⟨ts, hts, rfl⟩ := lower_path_eq_ok h
    obtain ⟨us, hus, rfl⟩ := Option.mem_map.1 hs
    have hall := lowerSegments_shortest segments hts us hus
    refine Template.allShortest_sequence ?_
    split_ifs
    · exact List.forall_mem_cons.2 ⟨Template.allShortest_literal ['/'], hall⟩
    · exact hall
  | .segment _ items, _, _, _, _, _, h, s, hs => by
    obtain ⟨ts, hts, rfl⟩ := lower_segment_eq_ok h
    obtain ⟨us, hus, rfl⟩ := Option.mem_map.1 hs
    exact Template.allShortest_sequence (lowerItems_shortest items hts us hus)
  | .alternation _ branches, _, _, _, _, _, h, s, hs => by
    obtain ⟨ts, hts, rfl⟩ := lower_alternation_eq_ok h
    exact Template.allShortest_select (lowerBranches_shortest branches hts) hs
  | .variable _ name none, _, _, _, _, _, h, s, hs => by
    cases h
    cases hs
    exact Template.allShortest_parameter fun _ ht => nomatch ht
  | .variable _ name (some c), _, _, _, _, _, h, s, hs => by
    obtain ⟨t, rs, ht, rfl, -⟩ := lower_variable_eq_ok h
    cases hs
    refine Template.allShortest_parameter fun u hu => ?_
    obtain ⟨hu, hl⟩ := Option.filter_eq_some_iff.1 hu
    exact ⟨by simpa using hl, lower_shortest c ht u hu⟩
  | .wildcard .., _, _, _, _, _, h, s, hs => by
    cases h
    cases hs
    exact Template.allShortest_literal []
  | .regexp .., _, _, _, _, _, h, s, hs => by
    obtain ⟨-, rfl, -⟩ := lower_regexp_eq_ok h
    cases hs
  | .text _ value, _, _, _, _, _, h, s, hs => by
    cases h
    cases hs
    exact Template.allShortest_literal value

theorem lowerItems_shortest : ∀ (ns : List Node) {inVariable optional : Bool}
    {ps qs : List Parameter} {ts : Option (List Template)},
    lowerItems inVariable optional ns ps = .ok (ts, qs) → ∀ us ∈ ts, ∀ t ∈ us, t.AllShortest
  | [], _, _, _, _, _, h, us, hus => by
    cases h
    cases hus
    exact List.forall_mem_nil _
  | n :: ns, _, _, _, _, _, h, us, hus => by
    obtain ⟨t, rs, ht, h⟩ := lowerItems_cons_eq_ok h
    obtain ⟨-, rfl, -⟩ | ⟨t, ts, rfl, hts, rfl⟩ := h
    · cases hus
    · obtain ⟨vs, hvs, rfl⟩ := Option.mem_map.1 hus
      exact List.forall_mem_cons.2 ⟨lower_shortest n ht t rfl, lowerItems_shortest ns hts vs hvs⟩

theorem lowerSegments_shortest : ∀ (ns : List Node) {inVariable optional : Bool}
    {ps qs : List Parameter} {ts : Option (List Template)},
    lowerSegments inVariable optional ns ps = .ok (ts, qs) →
      ∀ us ∈ ts, ∀ t ∈ us, t.AllShortest
  | [], _, _, _, _, _, h, us, hus => by
    cases h
    cases hus
    exact List.forall_mem_nil _
  | [n], _, _, _, _, _, h, us, hus => by
    obtain ⟨⟨t, _⟩, ht, he⟩ := map_eq_ok.1 h
    obtain ⟨rfl, rfl⟩ := Prod.mk.inj he
    obtain ⟨u, hu, rfl⟩ := Option.mem_map.1 hus
    exact List.forall_mem_singleton.2 (lower_shortest n ht u hu)
  | n :: m :: ns, _, _, _, _, _, h, us, hus => by
    obtain ⟨⟨t, _⟩, ht, h⟩ := bind_eq_ok.1 h
    cases t with
    | none =>
      cases h
      cases hus
    | some t =>
      obtain ⟨⟨ts, _⟩, hts, he⟩ := map_eq_ok.1 h
      obtain ⟨rfl, rfl⟩ := Prod.mk.inj he
      obtain ⟨vs, hvs, rfl⟩ := Option.mem_map.1 hus
      exact List.forall_mem_cons.2 ⟨lower_shortest n ht t rfl, List.forall_mem_cons.2
        ⟨Template.allShortest_literal ['/'], lowerSegments_shortest (m :: ns) hts vs hvs⟩⟩

theorem lowerBranches_shortest : ∀ (ns : List Node) {inVariable optional : Bool}
    {ps qs : List Parameter} {ts : List Template},
    lowerBranches inVariable optional ns ps = .ok (ts, qs) → ∀ t ∈ ts, t.AllShortest
  | [], _, _, _, _, _, h => by
    cases h
    exact List.forall_mem_nil _
  | n :: ns, _, _, _, _, _, h => by
    obtain ⟨t, rs, ts, ht, hts, rfl⟩ := lowerBranches_cons_eq_ok h
    exact List.forall_mem_append.2 ⟨fun s hs => lower_shortest n ht s (Option.mem_toList.1 hs),
      lowerBranches_shortest ns hts⟩

end

end Node

/-! ## Sequences by means of a stack -/

namespace Template

variable {s t u : Template} {ts us joined stack : List Template}

theorem joinTo_ne_nil (joined : List Template) (t : Template) : joinTo joined t ≠ [] := by
  unfold joinTo
  split
  · split <;> simp
  · simp

/-- Only the last part is joined to the next one. -/
theorem joinTo_append (front : List Template) (h : joined ≠ []) (t : Template) :
    joinTo (front ++ joined) t = front ++ joinTo joined t := by
  cases t with
  | literal value =>
    obtain ⟨last, hlast⟩ :=
      Option.ne_none_iff_exists'.1 fun hn => h (List.getLast?_eq_none_iff.1 hn)
    have happend : (front ++ joined).getLast? = some last := by
      rw [List.getLast?_append, hlast, Option.some_or]
    rw [joinTo, joinTo, happend, hlast]
    cases last with
    | literal v => simp [List.dropLast_append_of_ne_nil h]
    | _ => simp
  | _ => exact List.append_assoc _ _ _

theorem foldl_joinTo_append (front : List Template) (h : joined ≠ []) (us : List Template) :
    us.foldl joinTo (front ++ joined) = front ++ us.foldl joinTo joined := by
  induction us generalizing joined with
  | nil => rfl
  | cons u us ih =>
    rw [List.foldl_cons, joinTo_append front h, ih (joinTo_ne_nil joined u), List.foldl_cons]

theorem joinLiterals_literal_literal (v w : Text) (us : List Template) :
    joinLiterals (.literal v :: .literal w :: us) = joinLiterals (.literal (v ++ w) :: us) := by
  rw [joinLiterals, joinLiterals, joinLiterals]
  rcases joinLiterals us with - | ⟨u, more⟩
  · rfl
  · cases u <;> simp

theorem joinLiterals_cons_cons (h : ¬(t.isLiteral ∧ u.isLiteral)) (us : List Template) :
    joinLiterals (t :: u :: us) = t :: joinLiterals (u :: us) := by
  cases t with
  | literal v =>
    cases u with
    | literal w => exact absurd ⟨rfl, rfl⟩ h
    | _ => rfl
  | _ => rfl

theorem joinTo_singleton (h : ¬(t.isLiteral ∧ u.isLiteral)) : joinTo [t] u = [t] ++ [u] := by
  cases t with
  | literal v =>
    cases u with
    | literal w => exact absurd ⟨rfl, rfl⟩ h
    | _ => rfl
  | _ => cases u <;> rfl

/-- Parts that are joined one after the other are joined. -/
theorem foldl_joinTo (t : Template) (us : List Template) :
    us.foldl joinTo [t] = joinLiterals (t :: us) := by
  induction us generalizing t with
  | nil => cases t <;> rfl
  | cons u us ih =>
    rw [List.foldl_cons]
    by_cases h : t.isLiteral ∧ u.isLiteral
    · obtain ⟨v, rfl⟩ := eq_literal_of_isLiteral h.1
      obtain ⟨w, rfl⟩ := eq_literal_of_isLiteral h.2
      rw [joinLiterals_literal_literal]
      exact ih (.literal (v ++ w))
    · rw [joinTo_singleton h, foldl_joinTo_append [t] (List.cons_ne_nil u []), ih,
        joinLiterals_cons_cons h]
      rfl

theorem foldl_joinTo_nil (us : List Template) : us.foldl joinTo [] = joinLiterals us := by
  cases us with
  | nil => rfl
  | cons u us =>
    have hfirst : joinTo [] u = [u] := by cases u <;> rfl
    rw [List.foldl_cons, hfirst, foldl_joinTo]

/-- What is no sequence is taken from the stack as it is. -/
theorem unstack_append (h : ∀ t ∈ ts, t.isConcat = false) (joined stack : List Template) :
    unstack joined (ts ++ stack) = unstack (ts.foldl joinTo joined) stack := by
  induction ts generalizing joined with
  | nil => rfl
  | cons t ts ih =>
    obtain ⟨ht, hts⟩ := List.forall_mem_cons.1 h
    have hnext : unstack joined (t :: (ts ++ stack)) =
        unstack (joinTo joined t) (ts ++ stack) := by
      cases t with
      | concat us => cases ht
      | _ => rw [unstack]; simp
    rw [List.cons_append, hnext, ih hts, List.foldl_cons]

theorem unstack_cons (t : Template) (joined stack : List Template) :
    unstack joined (t :: stack) = unstack joined (t.parts ++ stack) := by
  cases t with
  | concat ts => rw [unstack, parts]
  | _ => rfl

/-- Where the parts of sequences are no sequences, the stack holds one level of them at a
    time. -/
theorem unstack_eq (h : ∀ t ∈ stack, ∀ u ∈ t.parts, u.isConcat = false)
    (joined : List Template) :
    unstack joined stack = (stack.flatMap parts).foldl joinTo joined := by
  induction stack generalizing joined with
  | nil => rw [unstack]; rfl
  | cons t stack ih =>
    obtain ⟨ht, hstack⟩ := List.forall_mem_cons.1 h
    rw [unstack_cons, unstack_append ht, ih hstack, List.flatMap_cons, List.foldl_append]

/-- **Stacks.** Of templates in shortest form, a stack makes the same sequence. -/
theorem sequenceByStack_eq (h : ∀ t ∈ ts, t.AllShortest) : sequenceByStack ts = sequence ts := by
  have hjoined : unstack [] ts = joinLiterals (ts.flatMap Template.parts) := by
    rw [unstack_eq fun t ht u hu => ((h t ht).parts u hu).2, foldl_joinTo_nil]
  rw [sequenceByStack, sequence, hjoined]

end Template

/-- **Lowering by means of a stack.** The sequences of paths and segments may be made by means of
    a stack. -/
theorem Node.lower_byStack (inVariable optional absolute : Bool) (span : Span) (ns : List Node)
    (ps : List Parameter) :
    (path span absolute ns).lower inVariable optional ps =
      ((lowerSegments inVariable optional ns ps).map fun (parts, ps) =>
        (parts.map fun ts => Template.sequenceByStack
          (if absolute then .literal ['/'] :: ts else ts), ps)) ∧
    (segment span ns).lower inVariable optional ps =
      ((lowerItems inVariable optional ns ps).map fun (parts, ps) =>
        (parts.map Template.sequenceByStack, ps)) := by
  constructor
  · rw [lower]
    refine map_congr_ok fun (ts, qs) hts => ?_
    have hall := lowerSegments_shortest ns hts
    dsimp only
    rw [Option.map_congr fun us hus => (Template.sequenceByStack_eq ?_).symm]
    split_ifs
    · exact List.forall_mem_cons.2 ⟨Template.allShortest_literal ['/'], hall us hus⟩
    · exact hall us hus
  · rw [lower]
    refine map_congr_ok fun (ts, qs) hts => ?_
    have hall := lowerItems_shortest ns hts
    dsimp only
    rw [Option.map_congr fun us hus => (Template.sequenceByStack_eq (hall us hus)).symm]

/-! ## What is the same under all bindings -/

/-- Whether what is built is the same under all bindings. -/
def Fixed (f : Bindings → Option Text) : Prop :=
  ∀ b b' : Bindings, b.Made → b'.Made → f b = f b'

namespace Template

variable {s t u : Template} {ts us : List Template}

mutual

/-- What is in shortest form is in normal form. -/
theorem AllShortest.normal : ∀ t : Template, t.AllShortest → t.Normal
  | .literal _, _ | .parameter .., _ => trivial
  | .concat [], h => nomatch (allShortest_concat.1 h).1.1
  | .concat [_], h => nomatch (allShortest_concat.1 h).1.1
  | .concat (t :: u :: ts), h => by
    obtain ⟨⟨-, -, hchain⟩, hts⟩ := allShortest_concat.1 h
    have hpair := (List.isChain_cons_cons.1 hchain).1
    refine ⟨?_, AllShortest.allNormal (t :: u :: ts) hts⟩
    cases ht : t.isLiteral with
    | false => exact ⟨t, List.mem_cons_self, ht⟩
    | true =>
      exact ⟨u, List.mem_cons_of_mem t List.mem_cons_self, Bool.eq_false_iff.2 fun hu =>
        hpair ⟨ht, hu⟩⟩
  | .choice [], h => nomatch (allShortest_choice.1 h).1.1
  | .choice [_], h => nomatch (allShortest_choice.1 h).1.1
  | .choice (t :: u :: ts), h => by
    obtain ⟨⟨-, -, hlast⟩, hts⟩ := allShortest_choice.1 h
    exact ⟨hlast t List.mem_cons_self, AllShortest.normal t (hts t List.mem_cons_self)⟩

theorem AllShortest.allNormal : ∀ ts : List Template, (∀ t ∈ ts, t.AllShortest) → AllNormal ts
  | [], _ => trivial
  | t :: ts, h =>
    ⟨AllShortest.normal t (List.forall_mem_cons.1 h).1,
      AllShortest.allNormal ts (List.forall_mem_cons.1 h).2⟩

end

theorem made_filled {xs : List Text} (h : xs.Nodup) (value : Text) : (filled xs value).Made := by
  have hnames : (filled xs value).names = xs := by
    rw [Bindings.names, filled, List.map_map]
    exact List.map_id xs
  have hlist : Bindings.ofList (filled xs value).entries = filled xs value :=
    Bindings.empty_extended (hnames.symm ▸ h)
  exact hlist ▸ .ofList _

/-- **Literals.** What is built is the same under all bindings exactly if the template is literal
    text. -/
theorem Normal.isLiteral_iff (h : t.Normal) : t.isLiteral ↔ Fixed fun b => t.build? b := by
  constructor
  · intro hl b b' _ _
    obtain ⟨value, rfl⟩ := eq_literal_of_isLiteral hl
    rfl
  · intro hfixed
    by_contra hl
    -- what is not literal text is longer where the values of all its names are longer
    obtain ⟨xs, hxs⟩ := Normal.grows t h
    obtain ⟨v, w, hv, hw, -, hlt⟩ := hxs xs.dedup (List.subset_dedup xs)
    have hmade : ∀ value, (filled xs.dedup value).Made := made_filled (List.nodup_dedup xs)
    have hvw : v = w :=
      Option.some.inj (hv.symm.trans ((hfixed _ _ (hmade []) (hmade ['x'])).trans hw))
    exact absurd (hlt (Bool.eq_false_iff.2 hl)) (hvw ▸ Nat.lt_irrefl _)

end Template

/-! ## Variables with constraints -/

/-- Of what a tree builds it does not matter in which way bindings are made. -/
theorem Builds.varies_iff {t : Option Template} {f : Bindings → Option Text} (h : Builds t f) :
    Varies f ↔ ¬Fixed f := by
  constructor
  · intro hv hfixed
    obtain ⟨s, hs⟩ := Option.isSome_iff_exists.1 (h.isSome_fallback.2 hv)
    obtain ⟨rfl, hl⟩ := Option.filter_eq_some_iff.1 hs
    have hbuild : (fun b => s.build? b) = f := funext h.build
    have hliteral := (h.normal s rfl).isLiteral_iff.2 (hbuild ▸ hfixed)
    rw [hliteral] at hl
    cases hl
  · intro hfixed
    by_contra hv
    refine hfixed fun b b' _ _ => ?_
    by_contra hne
    exact hv ⟨b, b', hne⟩

/-- **Fallbacks.** A variable falls back on its constraint exactly if the text of that is not the
    same under all bindings, and then on that text. If it is the same, the variable is required,
    unless it is optional for the place where it stands. -/
theorem Node.lower_variable_fallback (inVariable optional : Bool) (span : Span) (name : Text)
    (c : Node) (ps : List Parameter) :
    ∃ fallback qs, (Node.variable span name (some c)).lower inVariable optional ps =
        .ok (some (.parameter name fallback), qs) ∧
      (fallback = none ↔ Fixed c.value?) ∧ (∀ t ∈ fallback, ∀ b, t.build? b = c.value? b) ∧
      ∀ x, Marked qs x ↔ Marked ps x ∨ (optional = false ∧ Fixed c.value? ∧ name = x) := by
  obtain ⟨⟨t, qs⟩, h⟩ :=
    (Node.variable span name (some c)).lower_isOk inVariable optional ps fun _ => rfl
  obtain ⟨s, rs, hs, rfl, hqs⟩ := lower_variable_eq_ok h
  have hbuilds := c.lower_builds hs
  have hnone : s.filter (!·.isLiteral) = none ↔ Fixed c.value? := by
    rw [← Option.not_isSome_iff_eq_none, hbuilds.isSome_fallback, hbuilds.varies_iff, not_not]
  have hname : name ∈ rs.map (·.name) := by
    rw [lower_names c hs, mem_addNew]
    exact .inl (mem_names_declare.2 (.inl rfl))
  refine ⟨_, qs, h, hnone, fun t ht b => ?_, fun x => ?_⟩
  · obtain ⟨rfl, -⟩ := Option.filter_eq_some_iff.1 ht
    exact hbuilds.build b
  · have hrs : Marked rs x ↔ Marked ps x := (lower_unmarked c hs).trans (marked_declare _)
    rw [hqs, ← hnone, ← Option.not_isSome_iff_eq_none]
    cases optional with
    | true => simpa using hrs
    | false =>
      rw [Bool.false_or]
      split_ifs with hsome
      · simpa [hsome] using hrs
      · rw [marked_require hname, hrs]
        simp [hsome]

/-! ## Builders -/

/-- **Shortest form.** The template of a builder and all templates in it are in shortest form. So
    such a template is literal text exactly if it builds the same under all bindings. Wherever a
    variable with a constraint is lowered, it falls back on the text of the constraint exactly if
    that is not the same under all bindings; otherwise it is required, unless it is optional for
    the place where it stands. -/
theorem ofNode_shortest {pattern : Text} {root : Node} {p : PathBuilder}
    (hroot : parse pattern = .ok root) (h : PathBuilder.ofNode root = .ok p) :
    (∃ t, p.root = some t ∧
      ∀ s ∈ t.nodes, s.Shortest ∧ (s.isLiteral ↔ Fixed fun b => s.build? b)) ∧
    ∀ (inVariable optional : Bool) (span : Span) (name : Text) (c : Node) (ps : List Parameter),
      ∃ fallback qs, (Node.variable span name (some c)).lower inVariable optional ps =
          .ok (some (.parameter name fallback), qs) ∧
        (fallback = none ↔ Fixed c.value?) ∧ (∀ t ∈ fallback, ∀ b, t.build? b = c.value? b) ∧
        ∀ x, Marked qs x ↔ Marked ps x ∨ (optional = false ∧ Fixed c.value? ∧ name = x) := by
  refine ⟨?_, Node.lower_variable_fallback⟩
  obtain ⟨⟨t, qs⟩, ht, rfl⟩ := map_eq_ok.1 h
  obtain ⟨t, rfl⟩ := Option.isSome_iff_exists.1 (Node.isSome_of_lower (parse_wellFormed hroot) ht)
  have hall := root.lower_shortest ht t rfl
  exact ⟨t, rfl, fun s hs => ⟨hall s hs, (hall.of_mem hs).normal.isLiteral_iff⟩⟩

/-- Choices in choices, of which one ends at a literal, sequences in sequences with literals at
    their ends, and two constraints, of which one is literal text. -/
theorem ofNode_shortest_nested :
    ∃ root p t, parse "/{:x,{:y,b,:z}}{*/:u}/:w{a{:v,c},d}:t{e{f}}".toList = .ok root ∧
      PathBuilder.ofNode root = .ok p ∧ p.root = some t ∧
      t.nodes.map Template.isLiteral = [false, true, false, false, false, true, true, false, true,
        false, false, false, true, false, false, true, true, false] ∧
      ∀ s ∈ t.nodes, s.Shortest ∧ (s.isLiteral ↔ Fixed fun b => s.build? b) := by
  have hp : ((parse "/{:x,{:y,b,:z}}{*/:u}/:w{a{:v,c},d}:t{e{f}}".toList).toOption.bind fun root =>
      (PathBuilder.ofNode root).toOption.bind fun p =>
        p.root.map fun t => t.nodes.map Template.isLiteral) =
      some [false, true, false, false, false, true, true, false, true,
        false, false, false, true, false, false, true, true, false] := by
    decide +kernel
  obtain ⟨root, hroot, hp⟩ := Option.bind_eq_some_iff.1 hp
  obtain ⟨p, hbuilder, hp⟩ := Option.bind_eq_some_iff.1 hp
  obtain ⟨t, ht, hliterals⟩ := Option.map_eq_some_iff.1 hp
  obtain ⟨⟨t', ht', hall⟩, -⟩ :=
    ofNode_shortest (eq_ok_of_toOption hroot) (eq_ok_of_toOption hbuilder)
  obtain rfl : t = t' := Option.some.inj (ht.symm.trans ht')
  exact ⟨root, p, t, eq_ok_of_toOption hroot, eq_ok_of_toOption hbuilder, ht, hliterals, hall⟩

end PathRouting.Pattern
