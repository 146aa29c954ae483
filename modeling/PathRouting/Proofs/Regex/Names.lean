/-
  The order and the names of capturing groups.

  * `listing`: the groups of an expression, in the order in which they are opened, as a
    meaning. A choice may lose some, as a repetition may, but none is moved or repeated.
  * `Reader.listed`: the groups that the reader has opened so far. `Reader.step_listed`: a
    construct loses some of them, or opens one under the next number and, if it has a name,
    under a new one.
  * `groups_of_read`: in an expression that was read, the groups are in the order of their
    numbers, and no two have the same name.
  * `length_groups_le`, `groupNames_of_read`: so the groups that are left are not more than the
    number of the last one, and those with names are listed by number.
-/
import PathRouting.Proofs.Regex.Numbering

namespace PathRouting.Regex

open List

/-! ## Simplest forms -/

/-- The groups of an expression as a meaning. -/
def listing : Interpretation (List (ℕ × Option Text)) where
  of := Expr.groups
  unit := []
  comp := (· ++ ·)
  fail := []
  join := (· ++ ·)
  comp_assoc := append_assoc
  unit_comp := nil_append
  comp_unit := append_nil
  join_assoc := append_assoc
  fail_join := nil_append
  join_fail := append_nil
  of_empty := rfl
  of_seq _ _ := rfl
  of_alt _ _ := rfl
  of_literal _ _ := rfl
  of_none := rfl
  of_one _ := rfl
  of_union _ _ := rfl

namespace Expr

theorem groups_ofSet (s : CharSet) : (ofSet s).groups = [] :=
  listing.of_ofSet s

/-- What all branches begin with stands once in front of them. -/
theorem listing_rests_sublist {shared es : List Expr} (hne : es ≠ [])
    (he : ∀ e ∈ es, shared <+: e.parts) :
    listing.prod shared ++ listing.sum (es.map fun e => ofParts (e.parts.drop shared.length)) <+
      listing.sum es := by
  have hparts : ∀ e ∈ es, listing.prod shared ++ (ofParts (e.parts.drop shared.length)).groups =
      e.groups := by
    intro e hm
    have hall : listing.prod (shared ++ e.parts.drop shared.length) = e.groups := by
      rw [prefix_iff_eq_append.1 (he e hm)]
      exact listing.prod_parts e
    rw [← hall, listing.prod_append]
    exact congrArg _ (listing.of_ofParts _)
  have hdrop : ∀ es' ⊆ es, listing.sum (es'.map fun e => ofParts (e.parts.drop shared.length)) <+
      listing.sum es' := by
    intro es' hsub
    induction es' with
    | nil => exact .slnil
    | cons e es' ih =>
      obtain ⟨he, hsub⟩ := cons_subset.1 hsub
      refine Sublist.append ?_ (ih hsub)
      rw [show listing.of e = e.groups from rfl, ← hparts e he]
      exact sublist_append_right _ _
  cases es with
  | nil => exact absurd rfl hne
  | cons e es =>
    have hfirst := hparts e mem_cons_self
    rw [map_cons, listing.sum_cons, listing.sum_cons]
    show _ ++ ((ofParts (e.parts.drop shared.length)).groups ++ _) <+ e.groups ++ _
    rw [← append_assoc, hfirst]
    exact (hdrop es (subset_cons_self e es)).append_left _

theorem groups_choiceWith (fuel : ℕ) (es : List Expr) :
    (choiceWith fuel es).groups <+ listing.sum es := by
  induction fuel generalizing es with
  | zero =>
    rw [← listing.sum_flatMap_branches, ← listing.of_ofBranches]
    exact Sublist.refl _
  | succ fuel ih =>
    rw [← listing.sum_flatMap_branches]
    obtain ⟨-, hc⟩ | hone | ⟨s, -, hc⟩ | ⟨-, hc⟩ | ⟨hshared, hc⟩ := choiceWith_cases fuel es
    · rw [hc]
      exact nil_sublist _
    · rw [hone, listing.sum_singleton]
      exact Sublist.refl _
    · rw [hc, groups_ofSet]
      exact nil_sublist _
    · rw [hc, ← listing.of_ofBranches]
      exact Sublist.refl _
    · have hne : es.flatMap branches ≠ [] := by
        intro hnil
        rw [hnil] at hshared
        exact hshared rfl
      have hsequence : (choiceWith (fuel + 1) es).groups =
          listing.prod (sharedParts (es.flatMap branches)) ++
            (choiceWith fuel (rests (es.flatMap branches))).groups := by
        rw [hc]
        refine (listing.of_sequence _).trans ?_
        rw [listing.prod_append, listing.prod_singleton]
        rfl
      rw [hsequence]
      exact ((ih _).append_left _).trans
        (listing_rests_sublist hne fun e he => sharedParts_isPrefixOf he)

theorem groups_choice (es : List Expr) : (choice es).groups <+ listing.prod es :=
  groups_choiceWith _ es

theorem groups_iterate (min : ℕ) (max : Option ℕ) (greedy : Bool) (e : Expr) :
    (e.iterate min max greedy).groups <+ e.groups := by
  unfold iterate
  split
  split_ifs
  · exact nil_sublist _
  · exact Sublist.refl _
  · exact Sublist.refl _

end Expr

/-! ## What the reader has opened -/

namespace Level

/-- The groups of a level, in order. -/
def met (l : Level) : List (ℕ × Option Text) :=
  listing.prod (l.branches.reverse.map (·.1) ++ l.items.reverse.map (·.expr))

variable {l : Level}

theorem met_cons (l : Level) (i : Item) :
    Level.met { l with items := i :: l.items } = l.met ++ i.expr.groups := by
  simp only [met, reverse_cons, map_append, map_singleton]
  rw [← append_assoc, listing.prod_append, listing.prod_singleton]
  rfl

theorem met_push (l : Level) (e : Expr) (depth : ℕ) :
    (l.push e depth).met = l.met ++ e.groups :=
  l.met_cons ⟨e, depth, false⟩

theorem groups_sequence (l : Level) :
    l.sequence.1.groups = listing.prod (l.items.reverse.map (·.expr)) :=
  listing.of_sequence _

theorem prod_alternatives (l : Level) :
    listing.prod ((l.sequence :: l.branches).reverse.map (·.1)) = l.met := by
  rw [reverse_cons, map_append, map_singleton, listing.prod_append, listing.prod_singleton, met,
    listing.prod_append]
  exact congrArg _ l.groups_sequence

theorem met_split (l : Level) : l.split.met = l.met := by
  rw [← l.prod_alternatives, met]
  exact congrArg _ (append_nil _)

theorem groups_close (l : Level) : l.close.1.groups <+ l.met := by
  unfold Level.close
  split
  case h_1 h =>
    rw [l.groups_sequence, met, h]
    exact Sublist.refl _
  case h_2 =>
    rw [← l.prod_alternatives]
    exact Expr.groups_choice _

end Level

/-- The groups in front of what stands in an open group, that group included. -/
def OpenGroup.met (g : OpenGroup) : List (ℕ × Option Text) :=
  g.outer.met ++ g.capture.toList

namespace Reader

/-- The groups met so far, in the order in which they were opened. -/
def met (r : Reader) : List (ℕ × Option Text) :=
  r.enclosing.reverse.flatMap OpenGroup.met ++ r.level.met

section
variable {r r' s : Reader} {t u rest : Text}

theorem met_openCapture (r : Reader) (name : Option Text) :
    (r.openCapture name).met = r.met ++ [(r.groups + 1, name)] := by
  simp only [met, openCapture, reverse_cons, flatMap_append, flatMap_singleton, OpenGroup.met]
  rw [← append_assoc]
  exact append_nil _

theorem met_openPlain (r : Reader) (flags : Flags) : (r.openPlain flags).met = r.met := by
  simp only [met, openPlain, reverse_cons, flatMap_append, flatMap_singleton, OpenGroup.met,
    Option.toList_none, append_nil]
  exact append_nil _

theorem met_push {e : Expr} (he : e.groups = []) (depth : ℕ) :
    (r.push e depth).met = r.met := by
  rw [met, push, Level.met_push, he, append_nil]
  rfl

theorem closeGroup_met (h : r.closeGroup = .ok r') : r'.met <+ r.met := by
  obtain ⟨g, gs, hg, rfl⟩ := closeGroup_eq_ok.1 h
  have hbefore : r.met = gs.reverse.flatMap OpenGroup.met ++
      (g.outer.met ++ (g.capture.toList ++ r.level.met)) := by
    rw [met, hg, reverse_cons, flatMap_append, flatMap_singleton, OpenGroup.met]
    simp only [append_assoc]
  rw [hbefore, met, Level.met_push]
  refine Sublist.append_left (Sublist.append_left ?_ _) _
  have hclose := r.level.groups_close
  unfold OpenGroup.wrap
  obtain _ | ⟨index, name⟩ := g.capture
  · exact hclose
  · exact hclose.cons_cons (index, name)

theorem iterate_met {min : ℕ} {max : Option ℕ} {greedy : Bool}
    (h : r.iterate min max greedy = .ok r') : r'.met <+ r.met := by
  obtain ⟨e, depth, items, he, rfl⟩ := iterate_eq_ok.1 h
  have hlevel : r.level = { r.level with items := ⟨e, depth, false⟩ :: items } := by rw [← he]
  have hbefore : r.level.met = Level.met { r.level with items } ++ e.groups := by
    rw [hlevel]
    exact Level.met_cons { r.level with items } _
  refine Sublist.append_left ?_ _
  rw [hbefore, Level.met_cons { r.level with items }]
  exact (Expr.groups_iterate ..).append_left _

/-- The groups are those of before, of which some may be lost. -/
structure KeepsGroups (r r' : Reader) : Prop where
  met : r'.met <+ r.met
  groups : r'.groups = r.groups
  names : r'.names = r.names

/-- Behind the groups of before there is one under the next number, with a new name if it has
    one. -/
structure GainsGroup (r r' : Reader) (name : Option Text) : Prop where
  new : ∀ n, name = some n → n ∉ r.names
  met : r'.met = r.met ++ [(r.groups + 1, name)]
  groups : r'.groups = r.groups + 1
  names : r'.names = name.toList ++ r.names

/-- **One construct** loses groups, or adds one that is new. -/
theorem step_met {c : Char} (h : r.step c t = .ok (r', rest)) :
    r.KeepsGroups r' ∨ ∃ name, r.GainsGroup r' name := by
  obtain ⟨rfl, h⟩ | ⟨rfl, hc, rfl⟩ | ⟨rfl, rfl, rfl⟩ | ⟨-, -, h⟩ := step_cases h
  · obtain ⟨name, rfl, -, hnew⟩ | ⟨flags, rfl⟩ | ⟨flags, rfl⟩ := openGroup_cases h
    · exact .inr ⟨name, hnew, met_openCapture r name, rfl, rfl⟩
    · refine .inl ⟨?_, rfl, rfl⟩
      rw [met_openPlain]
    · refine .inl ⟨?_, rfl, rfl⟩
      rw [met, Level.met_cons, Expr.groups, append_nil, met]
  · exact .inl ⟨closeGroup_met hc, closeGroup_groups hc, closeGroup_names hc⟩
  · refine .inl ⟨?_, rfl, rfl⟩
    rw [met, Level.met_split, met]
  · obtain ⟨e, depth, he, rfl⟩ | ⟨min, max, greedy, h⟩ := h
    · have hnil : e.groups = [] := by
        rcases he with ⟨s, rfl⟩ | ⟨l, rfl⟩
        · exact Expr.groups_ofSet s
        · rfl
      refine .inl ⟨?_, rfl, rfl⟩
      rw [met_push hnil]
    · refine .inl ⟨iterate_met h, ?_, ?_⟩
      · rw [iterate_eq_level h]
      · rw [iterate_eq_level h]

/-! ## Numbers and names -/

/-- The groups met so far are in the order of their numbers, under different names, and are
    accounted for. -/
structure Listed (r : Reader) : Prop where
  ordered : r.met.Pairwise fun a b => a.1 < b.1
  distinct : (r.met.filterMap (·.2)).Nodup
  numbers : ∀ a ∈ r.met, 0 < a.1 ∧ a.1 ≤ r.groups
  names : ∀ n ∈ r.met.filterMap (·.2), n ∈ r.names

theorem initial_listed (flags : Flags) : (Reader.initial flags).Listed where
  ordered := .nil
  distinct := nodup_nil
  numbers _ h := nomatch h
  names _ h := nomatch h

theorem Listed.keep (h : r.Listed) (hk : r.KeepsGroups r') : r'.Listed where
  ordered := h.ordered.sublist hk.met
  distinct := h.distinct.sublist (hk.met.filterMap _)
  numbers a ha := hk.groups ▸ h.numbers a (hk.met.subset ha)
  names n hn := hk.names ▸ h.names n ((hk.met.filterMap _).subset hn)

theorem GainsGroup.filterMap_met {name : Option Text} (h : r.GainsGroup r' name) :
    r'.met.filterMap (·.2) = r.met.filterMap (·.2) ++ name.toList := by
  rw [h.met, filterMap_append]
  cases name <;> rfl

theorem Listed.gain (h : r.Listed) {name : Option Text} (hg : r.GainsGroup r' name) :
    r'.Listed where
  ordered := by
    rw [hg.met, pairwise_append]
    refine ⟨h.ordered, pairwise_singleton _ _, fun a ha b hb => ?_⟩
    rw [mem_singleton.1 hb]
    exact Nat.lt_succ_of_le (h.numbers a ha).2
  distinct := by
    rw [hg.filterMap_met, nodup_append]
    refine ⟨h.distinct, Option.toList_nodup name, fun n hn m hm => ?_⟩
    rintro rfl
    exact hg.new n (Option.mem_toList.1 hm) (h.names n hn)
  numbers a ha := by
    rw [hg.met, mem_append, mem_singleton] at ha
    rw [hg.groups]
    rcases ha with ha | rfl
    · exact ⟨(h.numbers a ha).1, (h.numbers a ha).2.trans (Nat.le_succ _)⟩
    · exact ⟨Nat.succ_pos _, Nat.le_refl _⟩
  names n hn := by
    rw [hg.filterMap_met, mem_append] at hn
    rw [hg.names, mem_append]
    exact hn.symm.imp_right (h.names n)

theorem Reads.listed (h : Reads r t s u) (hr : r.Listed) : s.Listed := by
  induction h with
  | refl => exact hr
  | step _ hs _ ih =>
    rcases step_met hs with hk | ⟨name, hg⟩
    · exact ih (hr.keep hk)
    · exact ih (hr.gain hg)

end

end Reader

section
variable {flags : Flags} {t : Text} {e : Expr}

/-- **Groups in order.** The groups of an expression that was read are in the order of their
    numbers, which begin behind zero, and no two have the same name. -/
theorem groups_of_read (h : read flags t = .ok e) :
    (e.groups.Pairwise fun a b => a.1 < b.1) ∧ (∀ g ∈ e.groups, 0 < g.1) ∧
      (e.groups.filterMap (·.2)).Nodup := by
  obtain ⟨s, u, hu, -, hnil, rfl⟩ := reads_of_read h
  have hlisted := hu.listed (Reader.initial_listed flags)
  have hsub : s.level.close.1.groups <+ s.met := by
    rw [Reader.met, hnil]
    exact s.level.groups_close
  exact ⟨hlisted.ordered.sublist hsub, fun g hg => (hlisted.numbers g (hsub.subset hg)).1,
    hlisted.distinct.sublist (hsub.filterMap _)⟩

/-- **Named groups.** The named groups of an expression that was read are listed by number,
    and no two have the same name. -/
theorem groupNames_of_read (h : read flags t = .ok e) :
    (e.groupNames.Pairwise fun a b => a.1 < b.1) ∧ (e.groupNames.map (·.2)).Nodup := by
  obtain ⟨hordered, hpos, hdistinct⟩ := groups_of_read h
  rw [Expr.groupNames_eq hordered hpos]
  constructor
  · refine hordered.filterMap _ fun a b hlt x hx y hy => ?_
    obtain ⟨n, -, rfl⟩ := Option.map_eq_some_iff.1 hx
    obtain ⟨m, -, rfl⟩ := Option.map_eq_some_iff.1 hy
    exact hlt
  · rw [map_filterMap]
    simpa only [Option.map_map, Function.comp_def, Option.map_id'] using hdistinct

theorem card_groupSet (h : read flags t = .ok e) : e.groupSet.card = e.groups.length := by
  have hnodup : (e.groups.map (·.1)).Nodup := by
    rw [List.Nodup, pairwise_map]
    exact (groups_of_read h).1.imp Nat.ne_of_lt
  have hset : (e.groups.map (·.1)).toFinset = e.groupSet := by
    ext i
    rw [mem_toFinset, mem_map, Expr.mem_groupSet]
  rw [← hset, toFinset_card_of_nodup hnodup, length_map]

/-- The groups that are left are not more than the number of the last one says. -/
theorem length_groups_le (h : read flags t = .ok e) : e.groups.length ≤ e.groupCount := by
  have hsub : e.groupSet ⊆ Finset.Icc 1 e.groupCount := fun i hi => by
    obtain ⟨g, hg, rfl⟩ := Expr.mem_groupSet.1 hi
    exact Finset.mem_Icc.2 ⟨(groups_of_read h).2.1 g hg, Expr.le_groupCount hi⟩
  rw [← card_groupSet h]
  exact (Finset.card_le_card hsub).trans_eq (Nat.card_Icc 1 _)

end

/-- A group that is repeated no times is taken away. The group behind keeps its number. -/
example : (read {} "(a){0}(b)".toList).toOption.map (fun e => (e.groups, e.groupCount)) =
    some ([(2, none)], 2) := by
  decide +kernel

end PathRouting.Regex
