/-
  What a tree builds, said of the tree itself.

  * `Node.value?`: the text of a tree under given bindings, part by part: that of a path is
    made of those of its segments, and so on, and an alternation has that of the first
    branch that has any. A variable without value has the text of its constraint, if that
    depends on the bindings.
  * `Template.build?_sequence`, `Template.build?_select`: simplest forms build what they
    were made of.
  * `Template.Normal`, `Template.Normal.varies`: if a template in simplest form is not
    literal text, then what it builds depends on the bindings.
  * `Template.write_spec`: writing in place writes what is built, and nothing of a branch
    that cannot be built stays.
  * `Node.lower_path_eq_ok`, `Node.lowerItems_cons_eq_ok` and those beside them: what lowering
    does, part by part.
  * `ofNode_builds_value`: a builder builds the text of its tree.
-/
import PathRouting.Pattern.Cursor
import PathRouting.Pattern.Template
import PathRouting.Proofs.Regex.Units
import Mathlib.Tactic

namespace PathRouting.Pattern

/-! ## The text of a tree -/

/-- Whether what is built depends on the bindings. -/
def Varies (f : Bindings → Option Text) : Prop :=
  ∃ b b', f b ≠ f b'

namespace Node

open Classical in
mutual

/-- The text of a tree under bindings, if it has one. -/
noncomputable def value? : Node → Bindings → Option Text
  | .path _ absolute segments, b =>
    (valueOf? ['/'] segments b).map fun t => if absolute then '/' :: t else t
  | .segment _ items, b => valueOf? [] items b
  | .alternation _ branches, b => firstValue? branches b
  | .variable _ name none, b => b.get? name
  | .variable _ name (some c), b =>
    (b.get? name).or (if Varies c.value? then c.value? b else none)
  | .wildcard .., _ => some []
  | .regexp .., _ => none
  | .text _ value, _ => some value

/-- The texts of several trees one after the other, with something between any two, if
    each has one. -/
noncomputable def valueOf? (between : Text) : List Node → Bindings → Option Text
  | [], _ => some []
  | [n], b => n.value? b
  | n :: m :: ns, b =>
    (n.value? b).bind fun t => (valueOf? between (m :: ns) b).map fun u => t ++ between ++ u

/-- The text of the first of several trees that has one. -/
noncomputable def firstValue? : List Node → Bindings → Option Text
  | [], _ => none
  | n :: ns, b => (n.value? b).or (firstValue? ns b)

end

theorem valueOf?_nil_cons (n : Node) (ns : List Node) (b : Bindings) : valueOf? [] (n :: ns) b =
    (n.value? b).bind fun t => (valueOf? [] ns b).map (t ++ ·) := by
  cases ns with
  | nil =>
    rw [valueOf?, valueOf?]
    cases n.value? b <;> simp
  | cons m ns => simp only [valueOf?, List.append_nil]

end Node

namespace Template

variable {b : Bindings} {t : Template} {ts us : List Template}

theorem eq_literal_of_isLiteral (h : t.isLiteral) : ∃ value, t = .literal value := by
  cases t with
  | literal value => exact ⟨value, rfl⟩
  | _ => cases h

/-! ## Simplest forms -/

theorem buildAll?_cons (b : Bindings) (t : Template) (ts : List Template) :
    buildAll? b (t :: ts) = (t.build? b).bind fun u => (buildAll? b ts).map (u ++ ·) := by
  rw [buildAll?]
  cases t.build? b <;> rfl

theorem buildFirst?_cons (b : Bindings) (t : Template) (ts : List Template) :
    buildFirst? b (t :: ts) = (t.build? b).or (buildFirst? b ts) := by
  rw [buildFirst?]
  cases t.build? b <;> rfl

theorem buildAll?_singleton (b : Bindings) (t : Template) : buildAll? b [t] = t.build? b := by
  rw [buildAll?_cons, buildAll?]
  cases t.build? b <;> simp

theorem buildFirst?_singleton (b : Bindings) (t : Template) : buildFirst? b [t] = t.build? b := by
  rw [buildFirst?_cons, buildFirst?, Option.or_none]

theorem buildAll?_append (b : Bindings) (ts us : List Template) : buildAll? b (ts ++ us) =
    (buildAll? b ts).bind fun u => (buildAll? b us).map (u ++ ·) := by
  induction ts with
  | nil =>
    rw [List.nil_append, buildAll?]
    cases buildAll? b us <;> rfl
  | cons t ts ih =>
    rw [List.cons_append, buildAll?_cons, buildAll?_cons, ih]
    cases t.build? b with
    | none => rfl
    | some u =>
      cases buildAll? b ts with
      | none => rfl
      | some v => cases buildAll? b us <;> simp

theorem buildFirst?_append (b : Bindings) (ts us : List Template) :
    buildFirst? b (ts ++ us) = (buildFirst? b ts).or (buildFirst? b us) := by
  induction ts with
  | nil => rfl
  | cons t ts ih => rw [List.cons_append, buildFirst?_cons, buildFirst?_cons, ih, Option.or_assoc]

theorem buildAll?_flatMap_parts (b : Bindings) (ts : List Template) :
    buildAll? b (ts.flatMap parts) = buildAll? b ts := by
  have hparts : ∀ t : Template, buildAll? b t.parts = t.build? b := by
    intro t
    cases t with
    | concat ts => rw [parts, build?]
    | _ => exact buildAll?_singleton b _
  induction ts with
  | nil => rfl
  | cons t ts ih => rw [List.flatMap_cons, buildAll?_append, hparts, ih, buildAll?_cons]

theorem buildFirst?_flatMap_branches (b : Bindings) (ts : List Template) :
    buildFirst? b (ts.flatMap branches) = buildFirst? b ts := by
  have hbranches : ∀ t : Template, buildFirst? b t.branches = t.build? b := by
    intro t
    cases t with
    | choice ts => rw [branches, build?]
    | _ => exact buildFirst?_singleton b _
  induction ts with
  | nil => rfl
  | cons t ts ih => rw [List.flatMap_cons, buildFirst?_append, hbranches, ih, buildFirst?_cons]

theorem buildAll?_joinLiterals (b : Bindings) (ts : List Template) :
    buildAll? b (joinLiterals ts) = buildAll? b ts := by
  induction ts with
  | nil => rfl
  | cons t ts ih =>
    unfold joinLiterals
    split
    case h_1 he => cases he
    case h_2 value rest he =>
      cases he
      rw [buildAll?_cons, ← ih]
      split
      case h_1 next more hj =>
        rw [hj, buildAll?_cons, buildAll?_cons, build?, build?, build?]
        cases buildAll? b more <;> simp
      case h_2 => exact buildAll?_cons b _ _
    case h_3 he =>
      cases he
      rw [buildAll?_cons, buildAll?_cons, ih]

/-- **Sequences.** The shortest form of a sequence builds what its parts build. -/
theorem build?_sequence (b : Bindings) (ts : List Template) :
    (sequence ts).build? b = buildAll? b ts := by
  rw [← buildAll?_flatMap_parts, ← buildAll?_joinLiterals]
  unfold sequence
  split
  case h_1 h => rw [h]; rfl
  case h_2 t h => rw [h, buildAll?_singleton]
  case h_3 h => rw [build?]

/-- Branches behind a literal are never built. -/
theorem buildFirst?_untilLiteral (b : Bindings) (ts : List Template) :
    buildFirst? b (untilLiteral ts) = buildFirst? b ts := by
  induction ts with
  | nil => rfl
  | cons t ts ih =>
    rw [untilLiteral]
    split_ifs with hl
    · cases t with
      | literal value => rfl
      | _ => cases hl
    · rw [buildFirst?_cons, buildFirst?_cons, ih]

/-- **Choices.** The shortest form of a choice builds what the first of its branches builds
    that can be built. -/
theorem build?_select (b : Bindings) (ts : List Template) :
    ((select? ts).bind fun t => t.build? b) = buildFirst? b ts := by
  rw [← buildFirst?_flatMap_branches, ← buildFirst?_untilLiteral]
  unfold select?
  split
  case h_1 h => rw [h]; rfl
  case h_2 t h => rw [h, buildFirst?_singleton]; rfl
  case h_3 h => exact (build?.eq_def b (.choice _)).trans rfl

/-! ## What depends on the bindings -/

mutual

/-- Sequences have a part that is not literal text, and choices begin with a branch that is
    not. -/
def Normal : Template → Prop
  | .literal _ | .parameter .. => True
  | .concat parts => (∃ t ∈ parts, t.isLiteral = false) ∧ AllNormal parts
  | .choice [] => False
  | .choice (t :: _) => t.isLiteral = false ∧ t.Normal

/-- All of several templates do. -/
def AllNormal : List Template → Prop
  | [] => True
  | t :: ts => t.Normal ∧ AllNormal ts

end

theorem allNormal_iff : AllNormal ts ↔ ∀ t ∈ ts, t.Normal := by
  induction ts with
  | nil => simp [AllNormal]
  | cons t ts ih => simp [AllNormal, ih]

/-- What holds of literal text and of all parts holds of the joined parts. -/
theorem forall_mem_joinLiterals {P : Template → Prop} (hliteral : ∀ value, P (.literal value))
    (h : ∀ t ∈ ts, P t) : ∀ t ∈ joinLiterals ts, P t := by
  induction ts with
  | nil => exact h
  | cons t ts ih =>
    obtain ⟨ht, hts⟩ := List.forall_mem_cons.1 h
    have ih := ih hts
    unfold joinLiterals
    split
    case h_1 he => cases he
    case h_2 value rest he =>
      cases he
      split
      case h_1 next more hj =>
        rw [hj] at ih
        exact List.forall_mem_cons.2 ⟨hliteral _, (List.forall_mem_cons.1 ih).2⟩
      case h_2 => exact List.forall_mem_cons.2 ⟨hliteral _, ih⟩
    case h_3 he =>
      cases he
      exact List.forall_mem_cons.2 ⟨ht, ih⟩

/-- Joined literals do not stand side by side. -/
theorem isChain_joinLiterals (ts : List Template) :
    (joinLiterals ts).IsChain fun t u => ¬(t.isLiteral ∧ u.isLiteral) := by
  induction ts with
  | nil => exact .nil
  | cons t ts ih =>
    unfold joinLiterals
    split
    case h_1 he => cases he
    case h_2 value rest he =>
      cases he
      split
      case h_1 next more hj =>
        rw [hj, List.isChain_cons] at ih
        exact List.isChain_cons.2 ih
      case h_2 hj =>
        refine List.isChain_cons.2 ⟨fun u hu hl => ?_, ih⟩
        obtain ⟨more, hm⟩ := List.head?_eq_some_iff.1 hu
        cases u with
        | literal next => exact hj next more hm
        | _ => cases hl.2
    case h_3 hne he =>
      cases he
      refine List.isChain_cons.2 ⟨fun u _ hl => ?_, ih⟩
      cases t with
      | literal value => exact hne value rfl
      | _ => cases hl.1

/-- Of joined literals there is one at most, unless there is something else. -/
theorem length_joinLiterals_le (h : ∀ t ∈ joinLiterals ts, t.isLiteral) :
    (joinLiterals ts).length ≤ 1 := by
  have hchain := isChain_joinLiterals ts
  rcases hj : joinLiterals ts with - | ⟨t, - | ⟨u, more⟩⟩
  · exact Nat.zero_le 1
  · exact Nat.le_refl 1
  · rw [hj] at h hchain
    have ht : t.isLiteral := h t List.mem_cons_self
    have hu : u.isLiteral := h u (List.mem_cons_of_mem t List.mem_cons_self)
    exact absurd ⟨ht, hu⟩ (List.isChain_cons_cons.1 hchain).1

theorem Normal.parts (h : t.Normal) : ∀ u ∈ t.parts, u.Normal := by
  cases t with
  | concat ts => exact allNormal_iff.1 h.2
  | _ => exact List.forall_mem_singleton.2 h

theorem normal_sequence (h : ∀ t ∈ ts, t.Normal) : (sequence ts).Normal := by
  have hparts : ∀ t ∈ ts.flatMap Template.parts, t.Normal := by
    intro t ht
    obtain ⟨u, hu, ht⟩ := List.mem_flatMap.1 ht
    exact (h u hu).parts t ht
  have hjoined := forall_mem_joinLiterals (P := Normal) (fun _ => trivial) hparts
  have hlength := @length_joinLiterals_le (ts.flatMap Template.parts)
  unfold sequence
  split
  case h_1 => trivial
  case h_2 t ht => exact hjoined t (ht ▸ List.mem_singleton_self t)
  case h_3 hnil hone =>
    refine ⟨?_, allNormal_iff.2 hjoined⟩
    by_contra hall
    have hle := hlength fun t ht => by
      by_contra hl
      exact hall ⟨t, ht, Bool.eq_false_iff.2 hl⟩
    rcases hj : joinLiterals (ts.flatMap Template.parts) with - | ⟨t, - | ⟨u, more⟩⟩
    · exact hnil hj
    · exact hone t hj
    · rw [hj] at hle
      simp at hle

/-- Branches of which the first is in normal form. -/
theorem normal_select (h : ∀ t ∈ ts, t.Normal) (ht : t ∈ select? ts) : t.Normal := by
  have hfirst : ∀ u ∈ (ts.flatMap branches).head?, u.Normal := by
    cases ts with
    | nil => exact fun u hu => nomatch hu
    | cons s ts =>
      have hs := h s (List.mem_cons_self ..)
      match s with
      | .choice (v :: vs) =>
        intro u hu
        rw [← Option.some.inj hu]
        exact hs.2
      | .literal _ | .concat _ | .parameter _ _ =>
        intro u hu
        rw [← Option.some.inj hu]
        exact hs
  unfold select? at ht
  rcases hb : ts.flatMap branches with - | ⟨u, us⟩
  · rw [hb] at ht
    cases ht
  · have hu : u.Normal := hfirst u (by rw [hb]; rfl)
    rw [hb, untilLiteral] at ht
    split_ifs at ht with hl
    · cases ht
      exact hu
    · rcases hus : untilLiteral us with - | ⟨v, vs⟩
      · rw [hus] at ht
        cases ht
        exact hu
      · rw [hus] at ht
        cases ht
        exact ⟨Bool.eq_false_iff.2 hl, hu⟩

/-- All of some names bound to one value. -/
def filled (xs : List Text) (value : Text) : Bindings :=
  ⟨xs.map fun x => (x, value)⟩

theorem get?_filled {xs : List Text} {x : Text} (h : x ∈ xs) (value : Text) :
    (filled xs value).get? x = some value := by
  induction xs with
  | nil => cases h
  | cons y xs ih =>
    by_cases hxy : x = y
    · subst hxy
      exact List.lookup_cons_self
    · have hx := ih ((List.mem_cons.1 h).resolve_left hxy)
      rw [filled, Bindings.get?, List.map_cons, List.lookup_cons, beq_false_of_ne hxy]
      exact hx

theorem get?_filled_of_not_mem {xs : List Text} {x : Text} (h : x ∉ xs) (value : Text) :
    (filled xs value).get? x = none := by
  rw [Bindings.get?, List.lookup_eq_none_iff]
  intro p hp
  obtain ⟨y, hy, rfl⟩ := List.mem_map.1 hp
  exact bne_iff_ne.2 fun heq => h (heq ▸ hy)

/-- Something is built if enough names are bound, and no less, or even more if `longer`,
    where their values are longer. -/
def Grows (build : Bindings → Option Text) (longer : Prop) : Prop :=
  ∃ xs, ∀ ys, xs ⊆ ys → ∃ u v, build (filled ys []) = some u ∧ build (filled ys ['x']) = some v ∧
    u.length ≤ v.length ∧ (longer → u.length < v.length)

theorem grows_const (value : Text) {longer : Prop} (h : ¬longer) :
    Grows (fun _ => some value) longer :=
  ⟨[], fun _ _ => ⟨value, value, rfl, rfl, Nat.le_refl _, fun hl => absurd hl h⟩⟩

mutual

/-- With all names bound, a choice builds its first branch, and a sequence all of its
    parts. -/
theorem Normal.grows : ∀ t : Template, t.Normal →
    Grows (fun b => t.build? b) (t.isLiteral = false)
  | .literal value, _ => grows_const value (by simp [isLiteral])
  | .concat ts, h => by
    obtain ⟨xs, hxs⟩ := AllNormal.grows ts h.2
    refine ⟨xs, fun ys hys => ?_⟩
    obtain ⟨u, v, hu, hv, hle, hlt⟩ := hxs ys hys
    exact ⟨u, v, hu, hv, hle, fun _ => hlt h.1⟩
  | .choice (t :: ts), h => by
    obtain ⟨xs, hxs⟩ := Normal.grows t h.2
    refine ⟨xs, fun ys hys => ?_⟩
    obtain ⟨u, v, hu, hv, hle, hlt⟩ := hxs ys hys
    have hfirst : ∀ b w, t.build? b = some w → (choice (t :: ts)).build? b = some w := by
      intro b w hw
      rw [build?, buildFirst?_cons, hw, Option.some_or]
    exact ⟨u, v, hfirst _ u hu, hfirst _ v hv, hle, fun _ => hlt h.1⟩
  | .parameter name fallback, _ => by
    have hbound : ∀ b : Bindings, ∀ value, b.get? name = some value →
        (parameter name fallback).build? b = some value := by
      intro b value hb
      cases fallback with
      | none => rw [build?, hb]
      | some t => rw [build?, hb]
    refine ⟨[name], fun ys hys => ⟨[], ['x'], ?_, ?_, Nat.zero_le 1, fun _ => Nat.zero_lt_one⟩⟩
    · exact hbound _ _ (get?_filled (hys (List.mem_singleton_self name)) _)
    · exact hbound _ _ (get?_filled (hys (List.mem_singleton_self name)) _)

theorem AllNormal.grows : ∀ ts : List Template, AllNormal ts →
    Grows (fun b => buildAll? b ts) (∃ t ∈ ts, t.isLiteral = false)
  | [], _ => grows_const [] (by simp)
  | t :: ts, h => by
    obtain ⟨xs, hxs⟩ := Normal.grows t h.1
    obtain ⟨ys, hys⟩ := AllNormal.grows ts h.2
    refine ⟨xs ++ ys, fun zs hzs => ?_⟩
    obtain ⟨hxzs, hyzs⟩ := List.append_subset.1 hzs
    obtain ⟨u, v, hu, hv, hle, hlt⟩ := hxs zs hxzs
    obtain ⟨u', v', hu', hv', hle', hlt'⟩ := hys zs hyzs
    have hall : ∀ b w w', t.build? b = some w → buildAll? b ts = some w' →
        buildAll? b (t :: ts) = some (w ++ w') := by
      intro b w w' hw hw'
      rw [buildAll?_cons, hw, Option.bind_some, hw', Option.map_some]
    refine ⟨u ++ u', v ++ v', hall _ u u' hu hu', hall _ v v' hv hv', ?_, ?_⟩
    · rw [List.length_append, List.length_append]
      omega
    · rintro ⟨s, hs, hl⟩
      rw [List.length_append, List.length_append]
      rcases List.mem_cons.1 hs with rfl | hs
      · have := hlt hl
        omega
      · have := hlt' ⟨s, hs, hl⟩
        omega

end

/-- **Dependence.** What is built depends on the bindings, unless it is literal text. -/
theorem Normal.varies (h : t.Normal) (hl : t.isLiteral = false) : Varies fun b => t.build? b := by
  obtain ⟨xs, hxs⟩ := Normal.grows t h
  obtain ⟨u, v, hu, hv, -, hlt⟩ := hxs xs (List.Subset.refl xs)
  refine ⟨filled xs [], filled xs ['x'], fun heq => ?_⟩
  have huv : u = v := Option.some.inj (hu.symm.trans (heq.trans hv))
  exact absurd (hlt hl) (huv ▸ Nat.lt_irrefl _)

/-! ## Writing in place -/

/-- What is behind a text that was there before: all of a text that is built, and anything
    if none is. -/
def Writes (out : Text) (written : Bool × Text) : Option Text → Prop
  | some built => written = (true, out ++ built)
  | none => ∃ rest, written = (false, out ++ rest)

mutual

/-- **Writing in place.** What is written is what is built. -/
theorem write_spec (b : Bindings) : ∀ (t : Template) (out : Text),
    Writes out (t.write b out) (t.build? b)
  | .literal value, out => rfl
  | .concat ts, out => writeAll_spec b ts out
  | .choice ts, out => writeFirst_spec b ts out
  | .parameter name none, out => by
    rw [write, build?]
    cases b.get? name with
    | some value => rfl
    | none => exact ⟨[], by rw [List.append_nil]⟩
  | .parameter name (some fallback), out => by
    rw [write, build?]
    cases b.get? name with
    | some value => rfl
    | none => exact write_spec b fallback out

theorem writeAll_spec (b : Bindings) : ∀ (ts : List Template) (out : Text),
    Writes out (writeAll b out ts) (buildAll? b ts)
  | [], out => by
    rw [writeAll, buildAll?, Writes, List.append_nil]
  | t :: ts, out => by
    have ht := write_spec b t out
    rw [writeAll, buildAll?_cons]
    cases hb : t.build? b with
    | none =>
      rw [hb] at ht
      obtain ⟨rest, hw⟩ := ht
      rw [hw]
      exact ⟨rest, rfl⟩
    | some u =>
      rw [hb] at ht
      have hts := writeAll_spec b ts (out ++ u)
      rw [show t.write b out = (true, out ++ u) from ht]
      cases ha : buildAll? b ts with
      | none =>
        rw [ha] at hts
        obtain ⟨rest, hw⟩ := hts
        exact ⟨u ++ rest, by rw [← List.append_assoc]; exact hw⟩
      | some v =>
        rw [ha] at hts
        refine Eq.trans hts ?_
        rw [List.append_assoc]

/-- What a branch that cannot be built has written is taken back. -/
theorem writeFirst_spec (b : Bindings) : ∀ (ts : List Template) (out : Text),
    Writes out (writeFirst b out ts) (buildFirst? b ts)
  | [], out => ⟨[], by rw [List.append_nil]; rfl⟩
  | t :: ts, out => by
    have ht := write_spec b t out
    rw [writeFirst, buildFirst?_cons]
    cases hb : t.build? b with
    | some u =>
      rw [hb] at ht
      rw [show t.write b out = (true, out ++ u) from ht]
      rfl
    | none =>
      rw [hb] at ht
      obtain ⟨rest, hw⟩ := ht
      rw [hw]
      dsimp only
      rw [List.take_left, Option.none_or]
      exact writeFirst_spec b ts out

end

end Template

theorem PathBuilder.write?_eq_build? (p : PathBuilder) (b : Bindings) : p.write? b = p.build? b := by
  unfold write? build?
  cases p.root with
  | none => rfl
  | some t =>
    have ht := t.write_spec b []
    rw [Option.bind_some, Option.bind_some]
    cases hb : t.build? b with
    | none =>
      rw [hb] at ht
      obtain ⟨rest, hw⟩ := ht
      rw [hw]
    | some u =>
      rw [hb] at ht
      rw [show t.write b [] = (true, u) from ht]

/-! ## From trees to templates -/

/-- A template in normal form, if there is one, that builds given texts. -/
structure Builds (t : Option Template) (f : Bindings → Option Text) : Prop where
  build : ∀ b, (t.bind fun t => t.build? b) = f b
  normal : ∀ s ∈ t, s.Normal

/-- Templates in normal form, if there are any, that build given texts in order. -/
structure BuildsAll (ts : Option (List Template)) (f : Bindings → Option Text) : Prop where
  build : ∀ b, (ts.bind fun ts => Template.buildAll? b ts) = f b
  normal : ∀ us ∈ ts, ∀ s ∈ us, s.Normal

section
variable {f g : Bindings → Option Text} {t : Option Template} {ts : Option (List Template)}

theorem builds_literal (value : Text) : Builds (some (.literal value)) fun _ => some value :=
  ⟨fun _ => rfl, fun _ hs => Option.some.inj hs ▸ trivial⟩

theorem builds_none : Builds none fun _ => none :=
  ⟨fun _ => rfl, fun _ hs => nomatch hs⟩

theorem BuildsAll.sequence (h : BuildsAll ts f) : Builds (ts.map Template.sequence) f := by
  refine ⟨fun b => ?_, fun s hs => ?_⟩
  · rw [← h.build b]
    cases ts with
    | none => rfl
    | some us => exact Template.build?_sequence b us
  · obtain ⟨us, hus, rfl⟩ := Option.mem_map.1 hs
    exact Template.normal_sequence (h.normal us hus)

/-- There is a fallback exactly if what is built depends on the bindings. -/
theorem Builds.isSome_fallback (h : Builds t f) : (t.filter (!·.isLiteral)).isSome ↔ Varies f := by
  have hf : f = fun b => t.bind fun t => t.build? b := funext fun b => (h.build b).symm
  have hconst : ∀ o : Option Text, ¬Varies fun _ => o := fun o ⟨_, _, hne⟩ => hne rfl
  cases t with
  | none => exact iff_of_false (fun hsome => nomatch hsome) (hf ▸ hconst none)
  | some s =>
    cases hl : s.isLiteral with
    | true =>
      obtain ⟨value, rfl⟩ := Template.eq_literal_of_isLiteral hl
      exact iff_of_false (fun hsome => nomatch hsome) (hf ▸ hconst (some value))
    | false =>
      refine iff_of_true ?_ (hf ▸ (h.normal s rfl).varies hl)
      simp [Option.filter, hl]

/-- A parameter falls back on a constraint exactly if what that builds depends on the
    bindings. -/
theorem Builds.fallback (h : Builds t f) (name : Text) :
    Builds (some (.parameter name (t.filter (!·.isLiteral)))) fun b =>
      (b.get? name).or (open Classical in if Varies f then f b else none) := by
  refine ⟨fun b => ?_, fun s hs => Option.some.inj hs ▸ trivial⟩
  rw [Option.bind_some]
  split_ifs with hv
  · obtain ⟨s, hs⟩ := Option.isSome_iff_exists.1 (h.isSome_fallback.2 hv)
    have ht := Option.filter_eq_some_iff.1 hs
    rw [hs, ← h.build b, ht.1, Option.bind_some, Template.build?]
    cases b.get? name <;> rfl
  · have hnone := Option.not_isSome_iff_eq_none.1 fun hs => hv (h.isSome_fallback.1 hs)
    rw [hnone, Option.or_none, Template.build?]

theorem Builds.cons {s : Template} (h : Builds (some s) f) (hs : BuildsAll ts g) :
    BuildsAll (ts.map (s :: ·)) fun b => (f b).bind fun u => (g b).map (u ++ ·) := by
  refine ⟨fun b => ?_, fun vs hvs => ?_⟩
  · rw [← h.build b, ← hs.build b]
    cases ts with
    | none => cases hb : s.build? b <;> simp [hb]
    | some us => exact Template.buildAll?_cons b s us
  · obtain ⟨us, hus, rfl⟩ := Option.mem_map.1 hvs
    exact List.forall_mem_cons.2 ⟨h.normal s rfl, hs.normal us hus⟩

/-- Nothing is built behind what cannot be built. -/
theorem Builds.stop (h : Builds none f) (k : Bindings → Text → Option Text) :
    BuildsAll none fun b => (f b).bind (k b) :=
  ⟨fun b => by rw [← h.build b]; rfl, fun _ hus => nomatch hus⟩

theorem Builds.alone (h : Builds t f) : BuildsAll (t.map ([·])) f := by
  refine ⟨fun b => ?_, fun us hus => ?_⟩
  · rw [← h.build b]
    cases t with
    | none => rfl
    | some s => exact Template.buildAll?_singleton b s
  · obtain ⟨s, hs, rfl⟩ := Option.mem_map.1 hus
    exact List.forall_mem_singleton.2 (h.normal s hs)

end

/-! ## What lowering does -/

namespace Node

section
variable {inVariable optional absolute : Bool} {span : Span} {ps qs : List Parameter} {n c : Node}
  {ns : List Node} {name body : Text} {t : Option Template} {ts : Option (List Template)}

theorem lower_path_eq_ok
    (h : (path span absolute ns).lower inVariable optional ps = .ok (t, qs)) :
    ∃ ts, lowerSegments inVariable optional ns ps = .ok (ts, qs) ∧
      t = ts.map fun ts => Template.sequence (if absolute then .literal ['/'] :: ts else ts) :=
  map_fst_eq_ok h

theorem lower_segment_eq_ok (h : (segment span ns).lower inVariable optional ps = .ok (t, qs)) :
    ∃ ts, lowerItems inVariable optional ns ps = .ok (ts, qs) ∧ t = ts.map Template.sequence :=
  map_fst_eq_ok h

theorem lower_alternation_eq_ok
    (h : (alternation span ns).lower inVariable optional ps = .ok (t, qs)) :
    ∃ ts, lowerBranches inVariable (optional || 1 < ns.length) ns ps = .ok (ts, qs) ∧
      t = Template.select? ts :=
  map_fst_eq_ok h

theorem lower_variable_eq_ok
    (h : (Node.variable span name (some c)).lower inVariable optional ps = .ok (t, qs)) :
    ∃ s rs, c.lower true true (declare name (match c.literalValues? with
        | some values => .literals values
        | none => .any) ps) = .ok (s, rs) ∧
      t = some (.parameter name (s.filter (!·.isLiteral))) ∧
      qs = if optional || (s.filter (!·.isLiteral)).isSome then rs else require name rs := by
  obtain ⟨⟨s, rs⟩, hs, he⟩ := map_eq_ok.1 h
  obtain ⟨rfl, rfl⟩ := Prod.mk.inj he
  exact ⟨s, rs, hs, rfl, rfl⟩

theorem lower_regexp_eq_ok (h : (regexp span body).lower inVariable optional ps = .ok (t, qs)) :
    inVariable = true ∧ t = none ∧ qs = ps := by
  rw [lower] at h
  split_ifs at h with hv
  cases h
  exact ⟨hv, rfl, rfl⟩

/-- An item that has no template is the last one that is lowered. -/
theorem lowerItems_cons_eq_ok
    (h : lowerItems inVariable optional (n :: ns) ps = .ok (ts, qs)) :
    ∃ t rs, n.lower inVariable optional ps = .ok (t, rs) ∧
      ((t = none ∧ ts = none ∧ qs = rs) ∨ ∃ u us, t = some u ∧
        lowerItems inVariable optional ns rs = .ok (us, qs) ∧ ts = us.map (u :: ·)) := by
  obtain ⟨⟨t, rs⟩, ht, h⟩ := bind_eq_ok.1 h
  refine ⟨t, rs, ht, ?_⟩
  cases t with
  | none =>
    cases h
    exact .inl ⟨rfl, rfl, rfl⟩
  | some u =>
    obtain ⟨us, hus, rfl⟩ := map_fst_eq_ok h
    exact .inr ⟨u, us, rfl, hus, rfl⟩

theorem lowerBranches_cons_eq_ok {ts : List Template}
    (h : lowerBranches inVariable optional (n :: ns) ps = .ok (ts, qs)) :
    ∃ t rs us, n.lower inVariable optional ps = .ok (t, rs) ∧
      lowerBranches inVariable optional ns rs = .ok (us, qs) ∧ ts = t.toList ++ us := by
  obtain ⟨⟨t, rs⟩, ht, h⟩ := bind_eq_ok.1 h
  obtain ⟨us, hus, rfl⟩ := map_fst_eq_ok h
  exact ⟨t, rs, us, ht, hus, rfl⟩

end

end Node

/-! ## What a lowered tree builds -/

namespace Node

mutual

/-- **Lowering.** The template of a tree builds the text of the tree. -/
theorem lower_builds : ∀ (n : Node) {inVariable optional : Bool} {ps ps' : List Parameter}
    {t : Option Template}, n.lower inVariable optional ps = .ok (t, ps') → Builds t n.value?
  | .path span absolute segments, _, _, _, _, _, h => by
    obtain ⟨ts, hts, rfl⟩ := lower_path_eq_ok h
    have hall := lowerSegments_builds segments hts
    cases absolute with
    | true =>
      have hbuilds := ((builds_literal ['/']).cons hall).sequence
      rw [Option.map_map] at hbuilds
      exact hbuilds
    | false =>
      have hvalue : (path span false segments).value? = valueOf? ['/'] segments := by
        funext b
        rw [value?]
        exact Option.map_id'
      rw [hvalue]
      exact hall.sequence
  | .segment _ items, _, _, _, _, _, h => by
    obtain ⟨ts, hts, rfl⟩ := lower_segment_eq_ok h
    exact (lowerItems_builds items hts).sequence
  | .alternation _ branches, _, _, _, _, _, h => by
    obtain ⟨ts, hts, rfl⟩ := lower_alternation_eq_ok h
    obtain ⟨hbuild, hnormal⟩ := lowerBranches_builds branches hts
    exact ⟨fun b => (Template.build?_select b ts).trans (hbuild b),
      fun s hs => Template.normal_select hnormal hs⟩
  | .variable _ name none, _, _, _, _, _, h => by
    cases h
    exact ⟨fun b => by rw [value?, Option.bind_some, Template.build?],
      fun s hs => Option.some.inj hs ▸ trivial⟩
  | .variable _ name (some c), _, _, _, _, _, h => by
    obtain ⟨t, rs, ht, rfl, -⟩ := lower_variable_eq_ok h
    exact (lower_builds c ht).fallback name
  | .wildcard .., _, _, _, _, _, h => by
    cases h
    exact builds_literal []
  | .regexp .., _, _, _, _, _, h => by
    obtain ⟨-, rfl, -⟩ := lower_regexp_eq_ok h
    exact builds_none
  | .text _ value, _, _, _, _, _, h => by
    cases h
    exact builds_literal value

theorem lowerItems_builds : ∀ (ns : List Node) {inVariable optional : Bool}
    {ps ps' : List Parameter} {ts : Option (List Template)},
    lowerItems inVariable optional ns ps = .ok (ts, ps') → BuildsAll ts (valueOf? [] ns)
  | [], _, _, _, _, _, h => by
    cases h
    exact ⟨fun _ => rfl, fun us hus => Option.some.inj hus ▸ List.forall_mem_nil _⟩
  | n :: ns, _, _, _, _, _, h => by
    obtain ⟨t, rs, ht, h⟩ := lowerItems_cons_eq_ok h
    have hn := lower_builds n ht
    rw [funext fun b => valueOf?_nil_cons n ns b]
    obtain ⟨rfl, rfl, -⟩ | ⟨t, ts, rfl, hts, rfl⟩ := h
    · exact hn.stop _
    · exact hn.cons (lowerItems_builds ns hts)

theorem lowerSegments_builds : ∀ (ns : List Node) {inVariable optional : Bool}
    {ps ps' : List Parameter} {ts : Option (List Template)},
    lowerSegments inVariable optional ns ps = .ok (ts, ps') → BuildsAll ts (valueOf? ['/'] ns)
  | [], _, _, _, _, _, h => by
    cases h
    exact ⟨fun _ => rfl, fun us hus => Option.some.inj hus ▸ List.forall_mem_nil _⟩
  | [n], _, _, _, _, _, h => by
    obtain ⟨⟨t, _⟩, ht, he⟩ := map_eq_ok.1 h
    obtain ⟨rfl, rfl⟩ := Prod.mk.inj he
    exact (lower_builds n ht).alone
  | n :: m :: ns, _, _, _, _, _, h => by
    obtain ⟨⟨t, _⟩, ht, h⟩ := bind_eq_ok.1 h
    have hn := lower_builds n ht
    cases t with
    | none =>
      cases h
      exact hn.stop _
    | some t =>
      obtain ⟨⟨ts, _⟩, hts, he⟩ := map_eq_ok.1 h
      obtain ⟨rfl, rfl⟩ := Prod.mk.inj he
      have hall := hn.cons ((builds_literal ['/']).cons (lowerSegments_builds (m :: ns) hts))
      simp only [Option.map_map, Option.bind_some, Function.comp_def, ← List.append_assoc] at hall
      exact hall

theorem lowerBranches_builds : ∀ (ns : List Node) {inVariable optional : Bool}
    {ps ps' : List Parameter} {ts : List Template},
    lowerBranches inVariable optional ns ps = .ok (ts, ps') →
      (∀ b, Template.buildFirst? b ts = firstValue? ns b) ∧ ∀ t ∈ ts, t.Normal
  | [], _, _, _, _, _, h => by
    cases h
    exact ⟨fun _ => rfl, List.forall_mem_nil _⟩
  | n :: ns, _, _, _, _, _, h => by
    obtain ⟨t, rs, ts, ht, hts, rfl⟩ := lowerBranches_cons_eq_ok h
    have hn := lower_builds n ht
    obtain ⟨hbuild, hnormal⟩ := lowerBranches_builds ns hts
    refine ⟨fun b => ?_, fun s hs => ?_⟩
    · rw [Template.buildFirst?_append, hbuild, firstValue?, ← hn.build b]
      cases t with
      | none => rfl
      | some t => rw [Option.toList_some, Template.buildFirst?_singleton, Option.bind_some]
    · rcases List.mem_append.1 hs with hs | hs
      · exact hn.normal s (Option.mem_toList.1 hs)
      · exact hnormal s hs

end

end Node

/-- The builder of a tree builds the text of the tree. -/
theorem PathBuilder.build?_eq_value? {root : Node} {p : PathBuilder}
    (h : PathBuilder.ofNode root = .ok p) (b : Bindings) : p.build? b = root.value? b := by
  obtain ⟨⟨t, _⟩, ht, rfl⟩ := map_eq_ok.1 h
  exact (root.lower_builds ht).build b

/-- **Builders.** What a builder builds is the text of its tree under the given bindings,
    and so is what it writes in place. -/
theorem ofNode_builds_value {root : Node} {p : PathBuilder} (h : PathBuilder.ofNode root = .ok p)
    (b : Bindings) : p.build? b = root.value? b ∧ p.write? b = root.value? b :=
  ⟨PathBuilder.build?_eq_value? h b,
    (p.write?_eq_build? b).trans (PathBuilder.build?_eq_value? h b)⟩

/-- The first branch is written up to its variable; the second one has a variable that falls
    back on its constraint. -/
theorem ofNode_builds_value_fallback :
    ∃ root p, parse "/{a/:x,b:y{:z,c}}".toList = .ok root ∧ PathBuilder.ofNode root = .ok p ∧
      p.write? ⟨[("z".toList, "1".toList)]⟩ = root.value? ⟨[("z".toList, "1".toList)]⟩ ∧
      root.value? ⟨[("z".toList, "1".toList)]⟩ = some "/b1".toList := by
  have hp : ((parse "/{a/:x,b:y{:z,c}}".toList).toOption.bind fun root =>
      (PathBuilder.ofNode root).toOption.map fun p =>
        p.build? ⟨[("z".toList, "1".toList)]⟩) = some (some "/b1".toList) := by
    decide +kernel
  obtain ⟨root, hroot, hp⟩ := Option.bind_eq_some_iff.1 hp
  obtain ⟨p, hp, hbuild⟩ := Option.map_eq_some_iff.1 hp
  obtain ⟨hvalue, hwrite⟩ := ofNode_builds_value (eq_ok_of_toOption hp) ⟨[("z".toList, "1".toList)]⟩
  exact ⟨root, p, eq_ok_of_toOption hroot, eq_ok_of_toOption hp, hwrite, hvalue.symm.trans hbuild⟩

end PathRouting.Pattern
