/-
  The values that the parameters of a builder may have.

  * `ValueSet.Allows`: a value is one of those that a parameter may have.
  * `Declares`: parameters come from others by declaring some variables in order.
    `Node.lower_declares`: those of a builder come from the variables of its tree.
  * `Declares.admits_iff`: a parameter may have just the values that it may have at one of
    the variables. `Declares.distinct`: no name and no value is listed twice.
  * `Node.taken_mem_values`: what is taken for a constraint with literal values only is one of
    them.
  * `literals_of_match`: a match binds parameters to values that they may have.
-/
import PathRouting.Proofs.Pattern.Flattening
import PathRouting.Proofs.Pattern.RoundTrip

namespace PathRouting.Pattern

/-! ## Sets of values -/

variable {values more : List Text} {value : Text}

theorem mem_addNew : value ∈ addNew values more ↔ value ∈ values ∨ value ∈ more := by
  induction more generalizing values with
  | nil => simp [addNew]
  | cons v more ih =>
    rw [addNew, ih]
    split_ifs with hv
    · have hmem : v ∈ values := List.contains_iff_mem.1 hv
      constructor
      · rintro (h | h)
        · exact .inl h
        · exact .inr (List.mem_cons_of_mem v h)
      · rintro (h | h)
        · exact .inl h
        · rcases List.mem_cons.1 h with rfl | h
          · exact .inl hmem
          · exact .inr h
    · simp [or_assoc]

theorem nodup_addNew (h : values.Nodup) : (addNew values more).Nodup := by
  induction more generalizing values with
  | nil => exact h
  | cons v more ih =>
    rw [addNew]
    split_ifs with hv
    · exact ih h
    · refine ih (List.nodup_append.2 ⟨h, List.nodup_singleton v, ?_⟩)
      rintro u hu w hw rfl
      rw [List.mem_singleton] at hw
      subst hw
      exact hv (List.contains_iff_mem.2 hu)

namespace ValueSet

/-- Whether a value is one of those that are allowed. -/
def Allows : ValueSet → Text → Prop
  | .literals values, value => value ∈ values
  | .any, _ => True

/-- Whether no value is listed twice. -/
def Distinct : ValueSet → Prop
  | .literals values => values.Nodup
  | .any => True

theorem allows_merge (s r : ValueSet) : (s.merge r).Allows value ↔ s.Allows value ∨ r.Allows value := by
  cases s with
  | any => simp [merge, Allows]
  | literals values =>
    cases r with
    | any => simp [merge, Allows]
    | literals more => exact mem_addNew

theorem Distinct.merge {s : ValueSet} (h : s.Distinct) (r : ValueSet) : (s.merge r).Distinct := by
  cases s with
  | any => trivial
  | literals values =>
    cases r with
    | any => trivial
    | literals more => exact nodup_addNew h

end ValueSet

/-! ## Declaring variables -/

/-- The values that a variable with a constraint may have. -/
def allowedBy (constraint : Option Node) : ValueSet :=
  match constraint.bind Node.literalValues? with
  | some values => .literals values
  | none => .any

/-- The second parameters come from the first ones by declaring variables in order. Some
    may become required in between. -/
inductive Declares : List Parameter → List (Text × Option Node) → List Parameter → Prop
  | done {ps} : Declares ps [] ps
  | declare {ps name c ds qs} : Declares (declare name (allowedBy c) ps) ds qs →
      Declares ps ((name, c) :: ds) qs
  | require {ps name ds qs} : Declares (require name ps) ds qs → Declares ps ds qs

/-- Whether a parameter may have a value. -/
def Admits (ps : List Parameter) (name value : Text) : Prop :=
  ∃ p ∈ ps, p.name = name ∧ p.values.Allows value

/-- Whether no parameter is listed twice, and no value of any. -/
structure DistinctAll (ps : List Parameter) : Prop where
  names : (ps.map (·.name)).Nodup
  values : ∀ p ∈ ps, p.values.Distinct

section
variable {ps qs rs : List Parameter} {ds es : List (Text × Option Node)} {name : Text}
  {s : ValueSet}

theorem admits_cons {p : Parameter} : Admits (p :: ps) name value ↔
    (p.name = name ∧ p.values.Allows value) ∨ Admits ps name value := by
  simp [Admits]

/-- A declaration adds its values to those of its name. -/
theorem admits_declare {x : Text} : Admits (declare x s ps) name value ↔
    (x = name ∧ s.Allows value) ∨ Admits ps name value := by
  induction ps with
  | nil => simp [declare, Admits]
  | cons p ps ih =>
    rw [declare]
    split_ifs with hp
    · rw [admits_cons, admits_cons, ValueSet.allows_merge, ← hp]
      tauto
    · rw [admits_cons, admits_cons, ih]
      tauto

theorem admits_require {x : Text} : Admits (require x ps) name value ↔ Admits ps name value := by
  induction ps with
  | nil => rfl
  | cons p ps ih =>
    rw [admits_cons, ← ih]
    rw [require, List.map_cons, admits_cons]
    split_ifs <;> rfl

theorem names_require (x : Text) (ps : List Parameter) :
    (require x ps).map (·.name) = ps.map (·.name) := by
  rw [require, List.map_map]
  refine List.map_congr_left fun p _ => ?_
  rw [Function.comp_apply]
  split_ifs <;> rfl

theorem mem_names_declare {x y : Text} : y ∈ (declare x s ps).map (·.name) ↔
    y = x ∨ y ∈ ps.map (·.name) := by
  induction ps with
  | nil => simp [declare]
  | cons p ps ih =>
    rw [declare]
    split_ifs with hp
    · simp [hp]
    · rw [List.map_cons, List.mem_cons, ih, List.map_cons, List.mem_cons]
      tauto

theorem DistinctAll.declare (h : DistinctAll ps) (hs : s.Distinct) (x : Text) :
    DistinctAll (declare x s ps) := by
  induction ps with
  | nil => exact ⟨List.nodup_singleton x, List.forall_mem_singleton.2 hs⟩
  | cons p ps ih =>
    obtain ⟨hp, hps⟩ := List.forall_mem_cons.1 h.values
    obtain ⟨hfresh, hnames⟩ := List.nodup_cons.1 h.names
    obtain ⟨ihnames, ihvalues⟩ := ih ⟨hnames, hps⟩
    rw [Pattern.declare]
    split_ifs with hx
    · exact ⟨h.names, List.forall_mem_cons.2 ⟨hp.merge s, hps⟩⟩
    · refine ⟨List.nodup_cons.2 ⟨fun hmem => ?_, ihnames⟩, List.forall_mem_cons.2 ⟨hp, ihvalues⟩⟩
      rcases mem_names_declare.1 hmem with heq | hmem
      · exact hx heq
      · exact hfresh hmem

theorem DistinctAll.require (h : DistinctAll ps) (x : Text) : DistinctAll (require x ps) := by
  refine ⟨by rw [names_require]; exact h.names, fun p hp => ?_⟩
  obtain ⟨q, hq, rfl⟩ := List.mem_map.1 hp
  have hvalues := h.values q hq
  split_ifs <;> exact hvalues

namespace Declares

theorem append (h : Declares ps ds qs) (h' : Declares qs es rs) : Declares ps (ds ++ es) rs := by
  induction h with
  | done => exact h'
  | declare _ ih => exact .declare (ih h')
  | require _ ih => exact .require (ih h')

/-- **Values.** A parameter may have the values that it could have before, and those that
    the variables of its name may have. -/
theorem admits_iff (h : Declares ps ds qs) : Admits qs name value ↔
    Admits ps name value ∨ ∃ c, (name, c) ∈ ds ∧ (allowedBy c).Allows value := by
  induction h with
  | done => simp
  | @declare ps x c ds qs _ ih =>
    rw [ih, admits_declare]
    constructor
    · rintro ((⟨rfl, hc⟩ | h) | ⟨c', hc', h⟩)
      · exact .inr ⟨c, List.mem_cons_self .., hc⟩
      · exact .inl h
      · exact .inr ⟨c', List.mem_cons_of_mem _ hc', h⟩
    · rintro (h | ⟨c', hc', h⟩)
      · exact .inl (.inr h)
      · rcases List.mem_cons.1 hc' with heq | hc'
        · obtain ⟨rfl, rfl⟩ := Prod.mk.inj heq
          exact .inl (.inl ⟨rfl, h⟩)
        · exact .inr ⟨c', hc', h⟩
  | require _ ih => rw [ih, admits_require]

end Declares

end

/-! ## The variables of a tree -/

namespace Template

theorem Normal.branches_ne_nil {t : Template} (h : t.Normal) : t.branches ≠ [] := by
  match t with
  | .choice (_ :: _) | .literal _ | .concat _ | .parameter _ _ => exact List.cons_ne_nil _ _

/-- There is a choice of templates if there is any template. -/
theorem isSome_select? {ts : List Template} (hn : ∀ t ∈ ts, t.Normal) (hne : ts ≠ []) :
    (select? ts).isSome := by
  have huntil : untilLiteral (ts.flatMap branches) ≠ [] := by
    obtain _ | ⟨t, ts⟩ := ts
    · exact absurd rfl hne
    · have ht := (hn t (List.mem_cons_self ..)).branches_ne_nil
      rw [List.flatMap_cons]
      cases hb : t.branches with
      | nil => exact absurd hb ht
      | cons u us =>
        rw [List.cons_append, untilLiteral]
        split_ifs <;> exact List.cons_ne_nil _ _
  unfold select?
  split
  case h_1 h => exact absurd h huntil
  case h_2 => rfl
  case h_3 => rfl

end Template

namespace Node

mutual

/-- The parameters of a tree without raw regular expressions are those that its variables
    declare. -/
theorem lower_declares : ∀ (n : Node) {inVariable optional : Bool} {ps qs : List Parameter}
    {t : Option Template}, n.WellFormed → n.rawFree →
      n.lower inVariable optional ps = .ok (t, qs) → t.isSome ∧ Declares ps n.declarations qs
  | .path _ absolute segments, _, _, _, _, _, hw, hr, h => by
    obtain ⟨us, hus, hsome⟩ := exists_lowerItems_of_path h
    rw [← hsome]
    exact lowerItems_declares segments hw hr hus
  | .segment _ items, _, _, _, _, _, hw, hr, h => by
    obtain ⟨ts, hts, rfl⟩ := lower_segment_eq_ok h
    obtain ⟨hsome, hdeclares⟩ := lowerItems_declares items hw hr hts
    exact ⟨by rwa [Option.isSome_map], hdeclares⟩
  | .alternation _ branches, _, _, _, _, _, hw, hr, h => by
    obtain ⟨ts, hts, rfl⟩ := lower_alternation_eq_ok h
    obtain ⟨hlength, hdeclares⟩ := lowerBranches_declares branches hw.2 hr hts
    have hne : ts ≠ [] := by
      rintro rfl
      exact hw.1 (List.length_eq_zero_iff.1 hlength.symm)
    exact ⟨Template.isSome_select? (lowerBranches_builds branches hts).2 hne, hdeclares⟩
  | .variable _ name none, _, optional, _, _, _, _, _, h => by
    cases h
    refine ⟨rfl, .declare ?_⟩
    cases optional with
    | true => exact .done
    | false => exact .require .done
  | .variable _ name (some c), _, optional, _, _, _, hw, hr, h => by
    obtain ⟨t, rs, ht, rfl, rfl⟩ := lower_variable_eq_ok h
    obtain ⟨-, hdeclares⟩ := lower_declares c hw hr ht
    refine ⟨rfl, .declare ?_⟩
    split_ifs
    · exact hdeclares
    · have hrequire : Declares rs [] (require name rs) := .require .done
      have happend := hdeclares.append hrequire
      rwa [List.append_nil] at happend
  | .wildcard .., _, _, _, _, _, _, _, h => by
    cases h
    exact ⟨rfl, .done⟩
  | .text _ value, _, _, _, _, _, _, _, h => by
    cases h
    exact ⟨rfl, .done⟩

theorem lowerItems_declares : ∀ (ns : List Node) {inVariable optional : Bool}
    {ps qs : List Parameter} {ts : Option (List Template)}, AllWellFormed ns → allRawFree ns →
      lowerItems inVariable optional ns ps = .ok (ts, qs) →
        ts.isSome ∧ Declares ps (declarationsOf ns) qs
  | [], _, _, _, _, _, _, _, h => by
    cases h
    exact ⟨rfl, .done⟩
  | n :: ns, _, _, _, _, _, hw, hr, h => by
    obtain ⟨hrn, hrns⟩ := Bool.and_eq_true_iff.1 hr
    obtain ⟨t, rs, ht, h⟩ := lowerItems_cons_eq_ok h
    obtain ⟨hsome, hn⟩ := lower_declares n hw.1 hrn ht
    obtain ⟨rfl, -, -⟩ | ⟨t, ts, rfl, hts, rfl⟩ := h
    · cases hsome
    obtain ⟨hsome, hns⟩ := lowerItems_declares ns hw.2 hrns hts
    exact ⟨by rwa [Option.isSome_map], hn.append hns⟩

theorem lowerBranches_declares : ∀ (ns : List Node) {inVariable optional : Bool}
    {ps qs : List Parameter} {ts : List Template}, AllWellFormed ns → allRawFree ns →
      lowerBranches inVariable optional ns ps = .ok (ts, qs) →
        ts.length = ns.length ∧ Declares ps (declarationsOf ns) qs
  | [], _, _, _, _, _, _, _, h => by
    cases h
    exact ⟨rfl, .done⟩
  | n :: ns, _, _, _, _, _, hw, hr, h => by
    obtain ⟨hrn, hrns⟩ := Bool.and_eq_true_iff.1 hr
    obtain ⟨t, rs, ts, ht, hts, rfl⟩ := lowerBranches_cons_eq_ok h
    obtain ⟨hsome, hn⟩ := lower_declares n hw.1 hrn ht
    obtain ⟨t, rfl⟩ := Option.isSome_iff_exists.1 hsome
    obtain ⟨hlength, hns⟩ := lowerBranches_declares ns hw.2 hrns hts
    refine ⟨?_, hn.append hns⟩
    rw [Option.toList_some, List.singleton_append, List.length_cons, List.length_cons, hlength]

end

end Node

/-! ## Literal constraints -/

namespace Node

/-- A tree that is no alternation has one literal value at most. -/
theorem literalText_of_values {n : Node} (hn : n.kind ≠ .alternation) {values : List Text}
    (h : n.literalValues? = some values) : ∃ u, n.literalText? = some u ∧ [u] = values := by
  rw [literalValues?] at h
  · exact Option.map_eq_some_iff.1 h
  · rintro span branches rfl
    exact hn rfl

mutual

/-- A tree of literal text takes that text. -/
theorem takes_of_literalText : ∀ {n : Node} {u : Text}, n.literalText? = some u →
    (n.ways true).Takes u
  | .text _ value, u, h => by
    cases h
    exact Ways.takes_text value
  | .segment _ items, u, h => takes_of_literalTexts h
  | .path _ absolute segments, u, h => by
    obtain ⟨v, hv, rfl⟩ := Option.map_eq_some_iff.1 h
    have hsegments := takes_of_literalSegments hv
    cases absolute with
    | true => exact Ways.takes_slash.andThen hsegments
    | false => exact Ways.takes_stay.andThen hsegments
  | .alternation _ [branch], u, h => takes_of_literalText (n := branch) h

theorem takes_of_literalTexts : ∀ {ns : List Node} {u : Text}, literalTexts? ns = some u →
    (waysOf true .stay ns).Takes u
  | [], u, h => by
    cases h
    exact Ways.takes_stay
  | [n], u, h => by
    rw [literalTexts?, literalTexts?] at h
    cases hn : n.literalText? with
    | none => simp [hn] at h
    | some v =>
      obtain rfl : v = u := by simpa [hn] using h
      exact takes_of_literalText hn
  | n :: m :: ns, u, h => by
    rw [literalTexts?] at h
    cases hn : n.literalText? with
    | none => simp [hn] at h
    | some v =>
      cases hns : literalTexts? (m :: ns) with
      | none => simp [hns] at h
      | some r =>
        obtain rfl : v ++ r = u := by simpa [hn, hns] using h
        have hall := ((takes_of_literalText hn).andThen Ways.takes_stay).andThen
          (takes_of_literalTexts hns)
        rwa [List.append_nil] at hall

theorem takes_of_literalSegments : ∀ {ns : List Node} {u : Text}, literalSegments? ns = some u →
    (waysOf true .slash ns).Takes u
  | [], u, h => by
    cases h
    exact Ways.takes_stay
  | [n], u, h => takes_of_literalText (n := n) h
  | n :: m :: ns, u, h => by
    rw [literalSegments?] at h
    · cases hn : n.literalText? with
      | none => simp [hn] at h
      | some v =>
        cases hns : literalSegments? (m :: ns) with
        | none => simp [hns] at h
        | some r =>
          obtain rfl : v ++ '/' :: r = u := by simpa [hn, hns] using h
          have hall := ((takes_of_literalText hn).andThen Ways.takes_slash).andThen
            (takes_of_literalSegments hns)
          rwa [List.append_assoc] at hall
    · exact fun h => nomatch h

end

mutual

/-- What is taken is one of the literal values of a tree, if it has literal values only. -/
theorem taken_mem_values : ∀ {n : Node} {values : List Text} {t : Text} {w : Way},
    n.literalValues? = some values → w ∈ n.ways true t → w.taken ∈ values
  | .alternation _ branches, values, t, w, h, hw => (taken_mem_branchValues h).2 hw
  | .path .., _, t, w, h, hw | .segment .., _, t, w, h, hw | .variable .., _, t, w, h, hw
  | .wildcard .., _, t, w, h, hw | .regexp .., _, t, w, h, hw | .text .., _, t, w, h, hw => by
    obtain ⟨u, hu, rfl⟩ := literalText_of_values (by simp [kind]) h
    exact List.mem_singleton.2 (takes_of_literalText hu t w hw)

theorem taken_mem_branchValues : ∀ {ns : List Node} {known values : List Text},
    branchValues? known ns = some values →
      known ⊆ values ∧ ∀ {t : Text} {w : Way}, w ∈ waysAny true ns t → w.taken ∈ values
  | [], known, values, h => by
    cases h
    exact ⟨List.Subset.refl known, fun hw => nomatch hw⟩
  | n :: ns, known, values, h => by
    rw [branchValues?] at h
    cases hn : n.literalValues? with
    | none => simp [hn] at h
    | some own =>
      rw [hn] at h
      obtain ⟨hknown, hns⟩ := taken_mem_branchValues h
      refine ⟨fun v hv => hknown (mem_addNew.2 (.inl hv)), fun {t w} hw => ?_⟩
      have hown : w ∈ n.ways true t → w.taken ∈ values :=
        fun hw => hknown (mem_addNew.2 (.inr (taken_mem_values hn hw)))
      cases ns with
      | nil => exact hown hw
      | cons m ns =>
        rcases List.mem_append.1 hw with hw | hw
        · exact hown hw
        · exact hns hw

end

mutual

theorem nodup_literalValues : ∀ {n : Node} {values : List Text}, n.literalValues? = some values →
    values.Nodup
  | .alternation _ branches, values, h => nodup_branchValues List.nodup_nil h
  | .path .., _, h | .segment .., _, h | .variable .., _, h | .wildcard .., _, h
  | .regexp .., _, h | .text .., _, h => by
    obtain ⟨u, -, rfl⟩ := literalText_of_values (by simp [kind]) h
    exact List.nodup_singleton u

theorem nodup_branchValues : ∀ {ns : List Node} {known values : List Text}, known.Nodup →
    branchValues? known ns = some values → values.Nodup
  | [], known, values, hk, h => by
    cases h
    exact hk
  | n :: ns, known, values, hk, h => by
    rw [branchValues?] at h
    cases hn : n.literalValues? with
    | none => simp [hn] at h
    | some own =>
      rw [hn] at h
      exact nodup_branchValues (nodup_addNew hk) h

end

end Node

theorem distinct_allowedBy (c : Option Node) : (allowedBy c).Distinct := by
  unfold allowedBy
  split
  case h_1 values h =>
    obtain ⟨n, -, hn⟩ := Option.bind_eq_some_iff.1 h
    exact Node.nodup_literalValues hn
  case h_2 => trivial

/-- **Lists.** Declaring variables lists no name and no value twice. -/
theorem Declares.distinct {ps qs : List Parameter} {ds : List (Text × Option Node)}
    (h : Declares ps ds qs) (hp : DistinctAll ps) : DistinctAll qs := by
  induction h with
  | done => exact hp
  | declare _ ih => exact ih (hp.declare (distinct_allowedBy _) _)
  | require _ ih => exact ih (hp.require _)

theorem Way.allowedBy_taken {c : Node} {t : Text} {w : Way} (h : w ∈ c.ways true t) :
    (allowedBy (some c)).Allows w.taken := by
  unfold allowedBy
  split
  case h_1 values hv => exact Node.taken_mem_values hv h
  case h_2 => trivial

/-! ## What a way binds -/

/-- A way binds variables to values that they may have. -/
def Way.Binds (w : Way) (ds : List (Text × Option Node)) : Prop :=
  ∀ b ∈ w.bound, ∃ c, (b.1, c) ∈ ds ∧ (allowedBy c).Allows b.2

namespace Ways

variable {f g : Ways} {ds es : List (Text × Option Node)}

/-- Each way does. -/
def Bind (f : Ways) (ds : List (Text × Option Node)) : Prop :=
  ∀ t, ∀ w ∈ f t, w.Binds ds

theorem Bind.andThen (hf : f.Bind ds) (hg : g.Bind es) : (f.andThen g).Bind (ds ++ es) := by
  intro t w hw b hb
  obtain ⟨u, hu, v, hv, rfl⟩ := mem_andThen.1 hw
  rcases List.mem_append.1 hb with hb | hb
  · obtain ⟨c, hc, hallows⟩ := hf t u hu b hb
    exact ⟨c, List.mem_append_left _ hc, hallows⟩
  · obtain ⟨c, hc, hallows⟩ := hg u.rest v hv b hb
    exact ⟨c, List.mem_append_right _ hc, hallows⟩

theorem Bind.orElse (hf : f.Bind ds) (hg : g.Bind es) : (f.orElse g).Bind (ds ++ es) := by
  intro t w hw b hb
  rcases List.mem_append.1 hw with hw | hw
  · obtain ⟨c, hc, hallows⟩ := hf t w hw b hb
    exact ⟨c, List.mem_append_left _ hc, hallows⟩
  · obtain ⟨c, hc, hallows⟩ := hg t w hw b hb
    exact ⟨c, List.mem_append_right _ hc, hallows⟩

theorem bind_stay : stay.Bind [] := by
  intro t w hw
  rw [List.mem_singleton.1 hw]
  exact List.forall_mem_nil _

theorem bind_one (p : Char → Bool) : (one p).Bind [] := by
  intro t w hw
  cases t with
  | nil => cases hw
  | cons c t =>
    rw [one] at hw
    split_ifs at hw
    · rw [List.mem_singleton.1 hw]
      exact List.forall_mem_nil _
    · cases hw

theorem bind_slash : slash.Bind [] := bind_one _

theorem bind_text (cs : Bool) (value : Text) : (text cs value).Bind [] := by
  induction value with
  | nil => exact bind_stay
  | cons c value ih => exact (bind_one _).andThen ih

theorem bind_run (stops : Text) : (run stops).Bind [] := by
  intro t
  induction t with
  | nil =>
    intro w hw
    rw [List.mem_singleton.1 hw]
    exact List.forall_mem_nil _
  | cons c t ih =>
    intro w hw
    rcases List.mem_append.1 hw with hw | hw
    · split_ifs at hw
      · cases hw
      · obtain ⟨v, hv, rfl⟩ := List.mem_map.1 hw
        exact ih v hv
    · rw [List.mem_singleton.1 hw]
      exact List.forall_mem_nil _

/-- A variable is bound to what is taken for it. -/
theorem Bind.variable {c : Option Node} (hf : f.Bind ds)
    (hc : ∀ t, ∀ w ∈ f t, (allowedBy c).Allows w.taken) (name : Text) :
    (f.bind name).Bind ((name, c) :: ds) := by
  intro t w hw b hb
  obtain ⟨v, hv, rfl⟩ := List.mem_map.1 hw
  rcases List.mem_cons.1 hb with rfl | hb
  · exact ⟨c, List.mem_cons_self .., hc t v hv⟩
  · obtain ⟨c', hc', hallows⟩ := hf t v hv b hb
    exact ⟨c', List.mem_cons_of_mem _ hc', hallows⟩

end Ways

namespace Node

mutual

/-- **Values of a way.** Each way of a tree binds its variables to values that they may
    have. -/
theorem ways_bind : ∀ n : Node, (n.ways true).Bind n.declarations
  | .path _ absolute segments => by
    have hsegments := waysOf_bind Ways.bind_slash segments
    cases absolute with
    | true => exact Ways.bind_slash.andThen hsegments
    | false => exact Ways.bind_stay.andThen hsegments
  | .segment _ items => waysOf_bind Ways.bind_stay items
  | .alternation _ branches => waysAny_bind branches
  | .variable _ name (some c) => (ways_bind c).variable (fun _ _ => Way.allowedBy_taken) name
  | .variable _ name none => (Ways.bind_run _).variable (c := none) (fun _ _ _ => trivial) name
  | .wildcard _ greedy => by cases greedy <;> exact Ways.bind_run _
  | .regexp .. => fun _ _ hw => nomatch hw
  | .text _ value => Ways.bind_text true value

theorem waysOf_bind {between : Ways} (hb : between.Bind []) : ∀ ns : List Node,
    (waysOf true between ns).Bind (declarationsOf ns)
  | [] => Ways.bind_stay
  | [n] => by
    rw [declarationsOf, declarationsOf, List.append_nil]
    exact ways_bind n
  | n :: m :: ns => by
    have hfirst := (ways_bind n).andThen hb
    rw [List.append_nil] at hfirst
    exact hfirst.andThen (waysOf_bind hb (m :: ns))

theorem waysAny_bind : ∀ ns : List Node, (waysAny true ns).Bind (declarationsOf ns)
  | [] => fun _ _ hw => nomatch hw
  | [n] => by
    rw [declarationsOf, declarationsOf, List.append_nil]
    exact ways_bind n
  | n :: m :: ns => (ways_bind n).orElse (waysAny_bind (m :: ns))

end

end Node

theorem mem_entries_foldl {b : Bindings} {pairs : List (Text × Text)} {p : Text × Text}
    (h : p ∈ (pairs.foldl (fun b p => b.insertNew p.1 p.2) b).entries) :
    p ∈ b.entries ∨ p ∈ pairs := by
  induction pairs generalizing b with
  | nil => exact .inl h
  | cons q pairs ih =>
    rcases ih h with h | h
    · simp only [Bindings.insertNew] at h
      split_ifs at h
      · exact .inl h
      · rcases List.mem_append.1 h with h | h
        · exact .inl h
        · rw [List.mem_singleton.1 h]
          exact .inr (List.mem_cons_self ..)
    · exact .inr (List.mem_cons_of_mem q h)

/-- What a match has as the value of a name, the way has bound it to. -/
theorem Way.mem_bound_of_get? {w : Way} {name value : Text}
    (h : w.result.bindings.get? name = some value) : (name, value) ∈ w.bound := by
  have hmem : (name, value) ∈ w.result.bindings.entries := by
    obtain ⟨front, back, hentries, -⟩ := List.lookup_eq_some_iff.1 h
    rw [hentries]
    exact List.mem_append_right _ (List.mem_cons_self ..)
  rcases mem_entries_foldl hmem with h | h
  · cases h
  · exact h

/-- **Value sets.** If a parameter of a pattern without raw regular expressions may have
    literal values only, then a match that respects letter case binds it to one of them, if
    it binds it at all; and none of them is listed twice. -/
theorem literals_of_match {pattern : Text} {root : Node} (hp : parse pattern = .ok root)
    (hr : root.rawFree) :
    ∃ p, PathBuilder.ofNode root = .ok p ∧ ∀ q ∈ p.parameters, ∀ values,
      q.values = .literals values → values.Nodup ∧
        ∀ m, compilePattern pattern { caseSensitive := true } = .ok m →
          ∀ t r value, m.match? t = some r → r.bindings.get? q.name = some value →
            value ∈ values := by
  have hw := parse_wellFormed hp
  obtain ⟨p, hbuilder⟩ := PathBuilder.exists_ofNode hr
  refine ⟨p, hbuilder, fun q hq values hvalues => ?_⟩
  obtain ⟨⟨_, ps⟩, hlower, rfl⟩ := map_eq_ok.1 hbuilder
  obtain ⟨-, hdeclares⟩ := root.lower_declares hw hr hlower
  have hdistinct : DistinctAll ps := hdeclares.distinct ⟨List.nodup_nil, List.forall_mem_nil _⟩
  constructor
  · have hnodup := hdistinct.values q hq
    rwa [hvalues] at hnodup
  · intro m hm t r value hmatch hget
    rw [eq_of_compilePattern hp hr hm] at hmatch
    obtain ⟨w, hway, rfl⟩ := Node.exists_way_of_match? hw hr hmatch
    obtain ⟨c, hc, hallows⟩ := root.ways_bind t w hway _ (Way.mem_bound_of_get? hget)
    -- the parameter is the only one of its name
    obtain ⟨q', hq', hname, hallows⟩ := hdeclares.admits_iff.2 (.inr ⟨c, hc, hallows⟩)
    obtain rfl : q' = q := List.inj_on_of_nodup_map hdistinct.names hq' hq hname
    rwa [hvalues] at hallows

/-- The values of one name in two places: a path, a nested alternation and a text. -/
theorem literals_of_match_merged :
    ∃ root m p, parse "/:a{x/y,{z}}-:a{w,z}".toList = .ok root ∧
      compilePattern "/:a{x/y,{z}}-:a{w,z}".toList { caseSensitive := true } = .ok m ∧
      PathBuilder.ofNode root = .ok p ∧
      p.parameters.map (fun q => (q.name, q.values)) =
        [(['a'], .literals ["x/y".toList, ['z'], ['w']])] ∧
      (m.match? "/x/y-w".toList).map (fun r => r.bindings.get? ['a']) =
        some (some "x/y".toList) ∧
      ∀ q ∈ p.parameters, ∀ values, q.values = .literals values → values.Nodup ∧
        ∀ t r value, m.match? t = some r → r.bindings.get? q.name = some value →
          value ∈ values := by
  have hp : ((parse "/:a{x/y,{z}}-:a{w,z}".toList).toOption.map fun root =>
      (root.rawFree, (PathBuilder.ofNode root).toOption.map fun p =>
        p.parameters.map fun q => (q.name, q.values))) =
      some (true, some [(['a'], .literals ["x/y".toList, ['z'], ['w']])]) := by
    decide +kernel
  have hm : ((compilePattern "/:a{x/y,{z}}-:a{w,z}".toList { caseSensitive := true }).toOption.map
      fun m => (m.match? "/x/y-w".toList).map (fun r => r.bindings.get? ['a'])) =
      some (some (some "x/y".toList)) := by
    decide +kernel
  obtain ⟨root, hroot, hp⟩ := Option.map_eq_some_iff.1 hp
  obtain ⟨hr, hparameters⟩ := Prod.mk.inj hp
  obtain ⟨m, hcompile, hfound⟩ := Option.map_eq_some_iff.1 hm
  obtain ⟨p, hbuilder, hvalues⟩ := literals_of_match (eq_ok_of_toOption hroot) hr
  rw [hbuilder] at hparameters
  refine ⟨root, m, p, eq_ok_of_toOption hroot, eq_ok_of_toOption hcompile, hbuilder,
    Option.some.inj hparameters, hfound, fun q hq values hq' => ?_⟩
  obtain ⟨hnodup, hmember⟩ := hvalues q hq values hq'
  exact ⟨hnodup, hmember m (eq_ok_of_toOption hcompile)⟩

end PathRouting.Pattern
