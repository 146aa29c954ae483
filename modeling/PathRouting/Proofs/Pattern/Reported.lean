/-
  The names of the parameters of a builder.

  * `Node.buildable`: whether a tree has a template; it has none if it holds a raw regular
    expression that no branch leaves out.
  * `Node.metNames`: the variables that are met on the way to a template. Nothing is read
    behind a part that cannot be built. `Node.lower_names`: these become parameters.
  * `Node.complete`: no variable stands behind a part that cannot be built, so that all of
    them are met.
  * `names_of_parameters`: a builder reports the variables that are met, which are those of
    the pattern if it is complete.
-/
import PathRouting.Proofs.Pattern.ValueSets

namespace PathRouting.Pattern

/-! ## Names without repetition -/

variable {values : List Text}

theorem addNew_append (values more rest : List Text) :
    addNew values (more ++ rest) = addNew (addNew values more) rest := by
  induction more generalizing values with
  | nil => rfl
  | cons v more ih => exact ih _

/-- Of what is added, those that are there already are left out, and repetitions. -/
theorem addNew_eq (values more : List Text) :
    addNew values more = values ++ (more.filter fun v => !values.contains v).eraseDups := by
  induction more generalizing values with
  | nil => simp [addNew]
  | cons v more ih =>
    rw [addNew, ih]
    by_cases hv : values.contains v
    · rw [if_pos hv, List.filter_cons_of_neg (by simpa using hv)]
    · rw [if_neg hv, List.filter_cons_of_pos (by simpa using hv), List.eraseDups_cons,
        List.filter_filter, List.append_assoc, List.singleton_append]
      congr 3
      refine List.filter_congr fun w _ => ?_
      by_cases hw : w = v <;> simp [hw]

theorem addNew_nil (more : List Text) : addNew [] more = more.eraseDups := by
  rw [addNew_eq, List.nil_append]
  congr 1
  exact List.filter_eq_self.2 fun _ _ => rfl

theorem eraseDups_of_nodup (h : values.Nodup) : values.eraseDups = values := by
  induction values with
  | nil => rfl
  | cons v values ih =>
    obtain ⟨hv, hvalues⟩ := List.nodup_cons.1 h
    have hfilter : values.filter (fun w => !w == v) = values :=
      List.filter_eq_self.2 fun w hw => by
        simpa using fun heq : w = v => hv (heq ▸ hw)
    rw [List.eraseDups_cons, hfilter, ih hvalues]

/-- A declaration adds its name. -/
theorem names_declare (x : Text) (s : ValueSet) (ps : List Parameter) :
    (declare x s ps).map (·.name) = addNew (ps.map (·.name)) [x] := by
  induction ps with
  | nil => rfl
  | cons p ps ih =>
    rw [declare]
    split_ifs with hp
    · simp [addNew, hp]
    · rw [List.map_cons, ih, List.map_cons, addNew, addNew, addNew, addNew, List.contains_cons,
        beq_false_of_ne (Ne.symm hp), Bool.false_or]
      split_ifs <;> rfl

/-! ## Trees that can be built -/

namespace Node

mutual

/-- Whether a tree has a template: a path and a segment if all of their parts have one, an
    alternation if one of its branches has, and a raw regular expression never. -/
def buildable : Node → Bool
  | .path _ _ ns | .segment _ ns => allBuildable ns
  | .alternation _ ns => anyBuildable ns
  | .regexp .. => false
  | .variable .. | .wildcard .. | .text .. => true

/-- Whether each of several trees has a template. -/
def allBuildable : List Node → Bool
  | [] => true
  | n :: ns => n.buildable && allBuildable ns

/-- Whether one of several trees has a template. -/
def anyBuildable : List Node → Bool
  | [] => false
  | n :: ns => n.buildable || anyBuildable ns

end

end Node

theorem Template.isSome_select?_iff {ts : List Template} (h : ∀ t ∈ ts, t.Normal) :
    (Template.select? ts).isSome ↔ ts ≠ [] := by
  constructor
  · rintro hsome rfl
    cases hsome
  · exact Template.isSome_select? h

namespace Node

mutual

/-- There is a template exactly if the tree can be built. -/
theorem lower_isSome : ∀ (n : Node) {inVariable optional : Bool} {ps qs : List Parameter}
    {t : Option Template}, n.lower inVariable optional ps = .ok (t, qs) →
      t.isSome = n.buildable
  | .path _ absolute segments, _, _, _, _, _, h => by
    obtain ⟨us, hus, hsome⟩ := exists_lowerItems_of_path h
    rw [← hsome]
    exact lowerItems_isSome segments hus
  | .segment _ items, _, _, _, _, _, h => by
    obtain ⟨ts, hts, rfl⟩ := lower_segment_eq_ok h
    rw [Option.isSome_map]
    exact lowerItems_isSome items hts
  | .alternation _ branches, _, _, _, _, _, h => by
    obtain ⟨ts, hts, rfl⟩ := lower_alternation_eq_ok h
    rw [Bool.eq_iff_iff, Template.isSome_select?_iff (lowerBranches_builds branches hts).2]
    exact lowerBranches_ne_nil branches hts
  | .variable _ _ none, _, _, _, _, _, h => by
    cases h
    rfl
  | .variable _ _ (some _), _, _, _, _, _, h => by
    obtain ⟨t, rs, -, rfl, -⟩ := lower_variable_eq_ok h
    rfl
  | .wildcard .., _, _, _, _, _, h => by
    cases h
    rfl
  | .regexp .., _, _, _, _, _, h => by
    obtain ⟨-, rfl, rfl⟩ := lower_regexp_eq_ok h
    rfl
  | .text .., _, _, _, _, _, h => by
    cases h
    rfl

theorem lowerItems_isSome : ∀ (ns : List Node) {inVariable optional : Bool}
    {ps qs : List Parameter} {ts : Option (List Template)},
    lowerItems inVariable optional ns ps = .ok (ts, qs) → ts.isSome = allBuildable ns
  | [], _, _, _, _, _, h => by
    cases h
    rfl
  | n :: ns, _, _, _, _, _, h => by
    obtain ⟨t, rs, ht, h⟩ := lowerItems_cons_eq_ok h
    rw [allBuildable, ← lower_isSome n ht]
    obtain ⟨rfl, rfl, -⟩ | ⟨t, ts, rfl, hts, rfl⟩ := h
    · rfl
    · rw [Option.isSome_map]
      exact lowerItems_isSome ns hts

theorem lowerBranches_ne_nil : ∀ (ns : List Node) {inVariable optional : Bool}
    {ps qs : List Parameter} {ts : List Template},
    lowerBranches inVariable optional ns ps = .ok (ts, qs) → (ts ≠ [] ↔ anyBuildable ns)
  | [], _, _, _, _, _, h => by
    cases h
    simp [anyBuildable]
  | n :: ns, _, _, _, _, _, h => by
    obtain ⟨t, rs, ts, ht, hts, rfl⟩ := lowerBranches_cons_eq_ok h
    have hns := lowerBranches_ne_nil ns hts
    rw [anyBuildable, ← lower_isSome n ht, Bool.or_eq_true, ← hns]
    cases t <;> simp

end

/-! ## The variables that are met -/

mutual

/-- The names of the variables that are met when a tree is lowered, in order, with
    repetitions. -/
def metNames : Node → List Text
  | .path _ _ ns | .segment _ ns => metUntil ns
  | .alternation _ ns => metOf ns
  | .variable _ name (some c) => name :: c.metNames
  | .variable _ name none => [name]
  | .wildcard .. | .regexp .. | .text .. => []

/-- Those of the parts of a path or a segment: nothing is read behind one that cannot be
    built. -/
def metUntil : List Node → List Text
  | [] => []
  | n :: ns => n.metNames ++ if n.buildable then metUntil ns else []

/-- Those of several branches. -/
def metOf : List Node → List Text
  | [] => []
  | n :: ns => n.metNames ++ metOf ns

end

mutual

theorem metNames_sublist : ∀ n : Node, n.metNames.Sublist n.variableNames
  | .path _ _ ns | .segment _ ns => metUntil_sublist ns
  | .alternation _ ns => metOf_sublist ns
  | .variable _ name (some c) => (metNames_sublist c).cons_cons name
  | .variable _ name none => List.Sublist.refl [name]
  | .wildcard .. | .regexp .. | .text .. => List.Sublist.slnil

theorem metUntil_sublist : ∀ ns : List Node, (metUntil ns).Sublist (namesOf ns)
  | [] => List.Sublist.slnil
  | n :: ns => by
    rw [metUntil, namesOf]
    split_ifs
    · exact (metNames_sublist n).append (metUntil_sublist ns)
    · exact (metNames_sublist n).append (List.nil_sublist _)

theorem metOf_sublist : ∀ ns : List Node, (metOf ns).Sublist (namesOf ns)
  | [] => List.Sublist.slnil
  | n :: ns => (metNames_sublist n).append (metOf_sublist ns)

end

mutual

/-- The parameters of a tree are the variables that are met. -/
theorem lower_names : ∀ (n : Node) {inVariable optional : Bool} {ps qs : List Parameter}
    {t : Option Template}, n.lower inVariable optional ps = .ok (t, qs) →
      qs.map (·.name) = addNew (ps.map (·.name)) n.metNames
  | .path _ _ segments, _, _, _, _, _, h => by
    obtain ⟨us, hus, -⟩ := exists_lowerItems_of_path h
    exact lowerItems_names segments hus
  | .segment _ items, _, _, _, _, _, h => by
    obtain ⟨ts, hts, -⟩ := lower_segment_eq_ok h
    exact lowerItems_names items hts
  | .alternation _ branches, _, _, _, _, _, h => by
    obtain ⟨ts, hts, -⟩ := lower_alternation_eq_ok h
    exact lowerBranches_names branches hts
  | .variable _ name none, _, optional, ps, _, _, h => by
    cases h
    cases optional with
    | true => exact names_declare name _ ps
    | false => exact (names_require name _).trans (names_declare name _ ps)
  | .variable _ name (some c), _, optional, ps, _, _, h => by
    obtain ⟨t, rs, ht, -, rfl⟩ := lower_variable_eq_ok h
    have hc : rs.map (·.name) = addNew (ps.map (·.name)) (name :: c.metNames) := by
      rw [lower_names c ht, names_declare, ← addNew_append, List.singleton_append]
    split_ifs
    · exact hc
    · rw [names_require]
      exact hc
  | .wildcard .., _, _, _, _, _, h => by
    cases h
    rfl
  | .regexp .., _, _, _, _, _, h => by
    obtain ⟨-, rfl, rfl⟩ := lower_regexp_eq_ok h
    rfl
  | .text .., _, _, _, _, _, h => by
    cases h
    rfl

theorem lowerItems_names : ∀ (ns : List Node) {inVariable optional : Bool}
    {ps qs : List Parameter} {ts : Option (List Template)},
    lowerItems inVariable optional ns ps = .ok (ts, qs) →
      qs.map (·.name) = addNew (ps.map (·.name)) (metUntil ns)
  | [], _, _, _, _, _, h => by
    cases h
    rfl
  | n :: ns, _, _, _, _, _, h => by
    obtain ⟨t, rs, ht, h⟩ := lowerItems_cons_eq_ok h
    rw [metUntil, addNew_append, ← lower_names n ht, ← lower_isSome n ht]
    obtain ⟨rfl, -, rfl⟩ | ⟨t, ts, rfl, hts, -⟩ := h
    · rfl
    · exact lowerItems_names ns hts

theorem lowerBranches_names : ∀ (ns : List Node) {inVariable optional : Bool}
    {ps qs : List Parameter} {ts : List Template},
    lowerBranches inVariable optional ns ps = .ok (ts, qs) →
      qs.map (·.name) = addNew (ps.map (·.name)) (metOf ns)
  | [], _, _, _, _, _, h => by
    cases h
    rfl
  | n :: ns, _, _, _, _, _, h => by
    obtain ⟨t, rs, ts, ht, hts, -⟩ := lowerBranches_cons_eq_ok h
    rw [metOf, addNew_append, ← lower_names n ht]
    exact lowerBranches_names ns hts

end

/-! ## Trees of which all variables are met -/

mutual

/-- Whether no variable stands behind a part of its path or segment that cannot be built. -/
def complete : Node → Bool
  | .path _ _ ns | .segment _ ns => completeUntil ns
  | .alternation _ ns => allComplete ns
  | .variable _ _ (some c) => c.complete
  | .variable _ _ none | .wildcard .. | .regexp .. | .text .. => true

/-- That in the parts of a path or a segment. -/
def completeUntil : List Node → Bool
  | [] => true
  | n :: ns => n.complete && if n.buildable then completeUntil ns else (namesOf ns).isEmpty

/-- That in several branches. -/
def allComplete : List Node → Bool
  | [] => true
  | n :: ns => n.complete && allComplete ns

end

/-- Parts of two lists that are equal together are equal. -/
theorem append_eq_append_of_sublist {as bs cs ds : List Text} (ha : as.Sublist cs)
    (hb : bs.Sublist ds) : as ++ bs = cs ++ ds ↔ as = cs ∧ bs = ds := by
  constructor
  · intro h
    refine List.append_inj h (Nat.le_antisymm ha.length_le ?_)
    have hlength := congrArg List.length h
    rw [List.length_append, List.length_append] at hlength
    have := hb.length_le
    omega
  · rintro ⟨rfl, rfl⟩
    rfl

mutual

/-- All variables of a tree are met exactly if none stands behind a part that cannot be
    built. -/
theorem complete_iff : ∀ n : Node, n.complete ↔ n.metNames = n.variableNames
  | .path _ _ ns | .segment _ ns => completeUntil_iff ns
  | .alternation _ ns => allComplete_iff ns
  | .variable _ name (some c) => by
    rw [complete, complete_iff c, metNames, variableNames, List.cons_inj_right]
  | .variable _ _ none | .wildcard .. | .regexp .. | .text .. => by
    simp [complete, metNames, variableNames]

theorem completeUntil_iff : ∀ ns : List Node, completeUntil ns ↔ metUntil ns = namesOf ns
  | [] => by simp [completeUntil, metUntil, namesOf]
  | n :: ns => by
    rw [completeUntil, Bool.and_eq_true, complete_iff n, metUntil, namesOf]
    split_ifs
    · rw [completeUntil_iff ns,
        append_eq_append_of_sublist (metNames_sublist n) (metUntil_sublist ns)]
    · rw [append_eq_append_of_sublist (metNames_sublist n) (List.nil_sublist _),
        List.isEmpty_iff, eq_comm (a := namesOf ns)]

theorem allComplete_iff : ∀ ns : List Node, allComplete ns ↔ metOf ns = namesOf ns
  | [] => by simp [allComplete, metOf, namesOf]
  | n :: ns => by
    rw [allComplete, Bool.and_eq_true, complete_iff n, allComplete_iff ns, metOf, namesOf,
      append_eq_append_of_sublist (metNames_sublist n) (metOf_sublist ns)]

end

end Node

/-! ## The parameters of a builder -/

section
variable {root : Node} {p : PathBuilder}

theorem PathBuilder.names_eq (h : PathBuilder.ofNode root = .ok p) :
    p.parameters.map (·.name) = addNew [] root.metNames := by
  obtain ⟨⟨t, ps⟩, ht, rfl⟩ := map_eq_ok.1 h
  exact root.lower_names ht

theorem PathBuilder.mem_names (h : PathBuilder.ofNode root = .ok p) {x : Text} :
    x ∈ p.parameters.map (·.name) ↔ x ∈ root.metNames := by
  rw [PathBuilder.names_eq h, mem_addNew]
  simp

theorem PathBuilder.names_nodup (h : PathBuilder.ofNode root = .ok p) :
    (p.parameters.map (·.name)).Nodup := by
  rw [PathBuilder.names_eq h]
  exact nodup_addNew List.nodup_nil

/-- **Parameters.** A builder reports the variables that are met, each where it is met first.
    They stand in the order of the variables of the pattern, and they are all of these if no
    variable stands behind a part of its path or segment that cannot be built. Where no name
    occurs twice, they are all of these only then. -/
theorem names_of_parameters (h : PathBuilder.ofNode root = .ok p) :
    p.parameters.map (·.name) = root.metNames.eraseDups ∧
      root.metNames.Sublist root.variableNames ∧
      (root.complete → p.parameters.map (·.name) = root.variableNames.eraseDups) ∧
      (root.variableNames.Nodup →
        (p.parameters.map (·.name) = root.variableNames ↔ root.complete)) := by
  have hnames : p.parameters.map (·.name) = root.metNames.eraseDups := by
    rw [PathBuilder.names_eq h, addNew_nil]
  refine ⟨hnames, root.metNames_sublist, fun hc => ?_, fun hnodup => ?_⟩
  · rw [hnames, root.complete_iff.1 hc]
  · rw [hnames, eraseDups_of_nodup (hnodup.sublist root.metNames_sublist), root.complete_iff]

end

/-- What can be built without a raw regular expression, and a name that occurs twice. -/
theorem names_of_parameters_twice :
    ∃ root p, parse ":b{:a(1),x:c}/:a".toList = .ok root ∧ PathBuilder.ofNode root = .ok p ∧
      p.parameters.map (·.name) = root.variableNames.eraseDups ∧
      root.variableNames = ["b".toList, "a".toList, "c".toList, "a".toList] := by
  have hp : ((parse ":b{:a(1),x:c}/:a".toList).toOption.bind fun root =>
      (PathBuilder.ofNode root).toOption.map fun _ => (root.complete, root.variableNames)) =
        some (true, ["b".toList, "a".toList, "c".toList, "a".toList]) := by
    decide +kernel
  obtain ⟨root, hroot, hp⟩ := Option.bind_eq_some_iff.1 hp
  obtain ⟨p, hbuilder, hp⟩ := Option.map_eq_some_iff.1 hp
  obtain ⟨hcomplete, hnames⟩ := Prod.mk.inj hp
  obtain ⟨-, -, hall, -⟩ := names_of_parameters (eq_ok_of_toOption hbuilder)
  exact ⟨root, p, eq_ok_of_toOption hroot, eq_ok_of_toOption hbuilder, hall hcomplete, hnames⟩

/-- A variable behind a raw regular expression in a constraint is not met. -/
theorem unmet_behind_group :
    ∃ root p, parse ":a{(x):b}".toList = .ok root ∧ PathBuilder.ofNode root = .ok p ∧
      root.variableNames.eraseDups = ["a".toList, "b".toList] ∧
      p.parameters.map (·.name) = ["a".toList] := by
  have hp : ((parse ":a{(x):b}".toList).toOption.bind fun root =>
      (PathBuilder.ofNode root).toOption.map fun p =>
        (root.variableNames.eraseDups, p.parameters.map (·.name))) =
        some (["a".toList, "b".toList], ["a".toList]) := by
    decide +kernel
  obtain ⟨root, hroot, hp⟩ := Option.bind_eq_some_iff.1 hp
  obtain ⟨p, hbuilder, hp⟩ := Option.map_eq_some_iff.1 hp
  obtain ⟨hall, hmet⟩ := Prod.mk.inj hp
  exact ⟨root, p, eq_ok_of_toOption hroot, eq_ok_of_toOption hbuilder, hall, hmet⟩

end PathRouting.Pattern
