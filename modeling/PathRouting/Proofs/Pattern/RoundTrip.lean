/-
  Building and matching undo each other.

  * `Node.determined`: what a match leaves out of the bindings, that is wildcards and
    alternations, stands in constraints only. `Node.value?_of_way`: then the text of a tree
    is what was matched.
  * `Node.direct`: each segment consists of texts and then at most one variable, which has
    no constraint. `Retraces`: the first way takes what was built, and binds the names to
    the values that it was built from.
  * `build_of_match`, `match_of_build`: patterns with such trees.
-/
import PathRouting.Proofs.Pattern.Bare
import PathRouting.Proofs.Pattern.Language

namespace PathRouting.Pattern

/-! ## What a way binds -/

theorem names_boundBy (t : Text) (saves : Regex.Saves) (xs : List Text) (first : ℕ) :
    ((boundBy t saves xs first).map (·.1)).Sublist xs := by
  induction xs generalizing first with
  | nil => exact .slnil
  | cons name xs ih =>
    rw [boundBy, List.zipIdx_cons, List.filterMap_cons]
    cases (Regex.Captures.mk t 0 0 saves).group? first with
    | none => exact (ih (first + 1)).cons name
    | some value => exact (ih (first + 1)).cons_cons name

/-- A way binds variables in order, each once. -/
theorem Arrives.names_sublist {t : Text} {g : ℕ} {xs : List Text} {x y : Regex.Point} {w : Way}
    (h : Arrives t g xs x y w) : (w.bound.map (·.1)).Sublist xs := by
  obtain ⟨saves, -, -, hbound⟩ := h.notes
  rw [← hbound]
  exact names_boundBy t saves xs (g + 1)

theorem Node.names_sublist {n : Node} {cs : Bool} {t : Text} {w : Way} (hw : n.WellFormed)
    (hr : n.rawFree) (h : w ∈ n.ways cs t) : (w.bound.map (·.1)).Sublist n.variableNames := by
  have harrives := (@lowers cs (fun _ => true) n hw hr).arrives (x := Regex.startOf t) rfl 0
  have hnames : List.Forall₂ (fun (w : Way) _ => (w.bound.map (·.1)).Sublist n.variableNames ∧ True)
      (n.ways cs t) ((n.written (!cs) 0).ends (Regex.startOf t)) :=
    .flip (harrives.imp fun _ _ h => ⟨h.names_sublist, trivial⟩)
  exact ((List.forall₂_and_left _ _).1 hnames).1 w h

theorem foldl_insertNew {front pairs : List (Text × Text)}
    (h : ((front ++ pairs).map (·.1)).Nodup) :
    pairs.foldl (fun b p => b.insertNew p.1 p.2) ⟨front⟩ = (⟨front ++ pairs⟩ : Bindings) := by
  induction pairs generalizing front with
  | nil => rw [List.append_nil]; rfl
  | cons p pairs ih =>
    have hnew : p.1 ∉ front.map (·.1) := by
      rw [List.map_append, List.map_cons] at h
      exact fun hp => List.disjoint_of_nodup_append h hp (List.mem_cons_self ..)
    have hlookup : front.lookup p.1 = none := by
      rw [List.lookup_eq_none_iff]
      intro q hq
      exact bne_iff_ne.2 fun heq => hnew (heq ▸ List.mem_map_of_mem hq)
    have hinsert : (Bindings.mk front).insertNew p.1 p.2 = ⟨front ++ [p]⟩ := by
      rw [Bindings.insertNew, Bindings.contains, Bindings.get?, hlookup]
      rfl
    rw [List.foldl_cons, hinsert, ih (by rwa [List.append_assoc]), List.append_assoc]
    rfl

/-- A way that binds no name twice stands for the bindings as they are. -/
theorem Way.result_of_nodup {w : Way} (h : (w.bound.map (·.1)).Nodup) :
    w.result = ⟨Text.utf8Length w.taken, ⟨w.bound⟩⟩ :=
  congrArg (PatternMatch.mk _) (foldl_insertNew h)

theorem get?_of_nodup {pairs : List (Text × Text)} (h : (pairs.map (·.1)).Nodup)
    {p : Text × Text} (hp : p ∈ pairs) : (Bindings.mk pairs).get? p.1 = some p.2 := by
  obtain ⟨front, back, rfl⟩ := List.append_of_mem hp
  refine List.lookup_eq_some_iff.2 ⟨front, back, rfl, fun q hq => bne_iff_ne.2 fun heq => ?_⟩
  rw [List.map_append, List.map_cons] at h
  exact List.disjoint_of_nodup_append h (List.mem_map_of_mem hq) (heq ▸ List.mem_cons_self ..)

namespace Ways

variable {f g : Ways} {t : Text} {w : Way}

theorem mem_andThen : w ∈ f.andThen g t ↔ ∃ u ∈ f t, ∃ v ∈ g u.rest,
    (⟨u.taken ++ v.taken, v.rest, u.bound ++ v.bound⟩ : Way) = w := by
  simp only [andThen, List.mem_flatMap, List.mem_map]

/-- Whatever is matched, the same text is taken, and nothing is bound. -/
def Takes (f : Ways) (u : Text) : Prop :=
  ∀ t, ∀ w ∈ f t, w.taken = u

theorem takes_stay : stay.Takes [] := by
  intro t w hw
  rw [List.mem_singleton.1 hw]

theorem takes_one {p : Char → Bool} {c : Char} (h : ∀ d, p d → c = d) : (one p).Takes [c] := by
  intro t w hw
  cases t with
  | nil => cases hw
  | cons d t =>
    rw [one] at hw
    split_ifs at hw with hd
    · rw [List.mem_singleton.1 hw, h d hd]
    · cases hw

theorem Takes.andThen {u v : Text} (hf : f.Takes u) (hg : g.Takes v) :
    (f.andThen g).Takes (u ++ v) := by
  intro t w hw
  obtain ⟨a, ha, b, hb, rfl⟩ := mem_andThen.1 hw
  dsimp only
  rw [hf t a ha, hg a.rest b hb]

theorem takes_slash : slash.Takes ['/'] :=
  takes_one fun _ h => of_decide_eq_true h

theorem takes_text (value : Text) : (text true value).Takes value := by
  induction value with
  | nil => exact takes_stay
  | cons c value ih =>
    have hc : (one (sameChar true c)).Takes [c] := takes_one fun _ h => of_decide_eq_true h
    exact hc.andThen ih

end Ways

/-! ## Building what was matched -/

namespace Node

mutual

/-- Whether wildcards and alternations stand in constraints only. -/
def determined : Node → Bool
  | .path _ _ ns | .segment _ ns => allDetermined ns
  | .alternation .. | .wildcard .. => false
  | .variable .. | .regexp .. | .text .. => true

/-- Whether they do in several trees. -/
def allDetermined : List Node → Bool
  | [] => true
  | n :: ns => n.determined && allDetermined ns

end

variable {b : Bindings} {t : Text} {w : Way}

mutual

/-- **Building what was matched.** A way takes the text of the tree under what it binds. A
    variable has the text that was taken for it, whatever is bound in its constraint. -/
theorem value?_of_way : ∀ {n : Node} {t : Text} {w : Way}, n.determined → w ∈ n.ways true t →
    (∀ p ∈ w.bound, b.get? p.1 = some p.2) → n.value? b = some w.taken
  | .path _ absolute segments, _, _, hd, hw, hb => by
    obtain ⟨v, hv, u, hu, rfl⟩ := Ways.mem_andThen.1 hw
    have hsegments := valueOf?_of_way Ways.takes_slash hd hu
      fun p hp => hb p (List.mem_append_right _ hp)
    rw [value?, hsegments]
    cases absolute with
    | true => exact congrArg (fun front => some (front ++ u.taken)) (Ways.takes_slash _ v hv).symm
    | false => exact congrArg (fun front => some (front ++ u.taken)) (Ways.takes_stay _ v hv).symm
  | .segment _ items, _, _, hd, hw, hb => valueOf?_of_way Ways.takes_stay hd hw hb
  | .variable _ name none, _, _, _, hw, hb => by
    obtain ⟨w, -, rfl⟩ := List.mem_map.1 hw
    exact hb _ (List.mem_cons_self ..)
  | .variable _ name (some c), _, _, _, hw, hb => by
    obtain ⟨w, -, rfl⟩ := List.mem_map.1 hw
    rw [value?, hb _ (List.mem_cons_self ..), Option.some_or]
  | .regexp .., _, _, _, hw, _ => nomatch hw
  | .text _ value, t, w, _, hw, _ => by rw [value?, Ways.takes_text value t w hw]

theorem valueOf?_of_way {f : Ways} {u : Text} (hf : f.Takes u) :
    ∀ {ns : List Node} {t : Text} {w : Way}, allDetermined ns → w ∈ waysOf true f ns t →
      (∀ p ∈ w.bound, b.get? p.1 = some p.2) → valueOf? u ns b = some w.taken
  | [], t, w, _, hw, _ => by rw [valueOf?, Ways.takes_stay t w hw]
  | [_], _, _, hd, hw, hb => value?_of_way (Bool.and_eq_true_iff.1 hd).1 hw hb
  | n :: m :: ns, _, _, hd, hw, hb => by
    obtain ⟨hn, hns⟩ := Bool.and_eq_true_iff.1 hd
    obtain ⟨_, hva, z, hz, rfl⟩ := Ways.mem_andThen.1 hw
    obtain ⟨v, hv, a, ha, rfl⟩ := Ways.mem_andThen.1 hva
    have hfirst := value?_of_way hn hv fun p hp =>
      hb p (List.mem_append_left _ (List.mem_append_left _ hp))
    have hrest := valueOf?_of_way hf hns hz fun p hp => hb p (List.mem_append_right _ hp)
    rw [valueOf?, hfirst, hrest, Option.bind_some, Option.map_some, hf _ a ha]

end

end Node

/-- Trees without raw regular expressions have builders. -/
theorem PathBuilder.exists_ofNode {root : Node} (h : root.rawFree) :
    ∃ p, PathBuilder.ofNode root = .ok p :=
  PathBuilder.exists_of_bare (root.bareRegexps_of_rawFree h)

/-- **Building undoes matching.** Of a pattern in which wildcards and alternations stand in
    constraints only, and no name twice, what a match binds builds what was matched. -/
theorem build_of_match {pattern : Text} {root : Node} (hp : parse pattern = .ok root)
    (hr : root.rawFree) (hd : root.determined) (hn : root.variableNames.Nodup) {m : Matcher}
    (hm : compilePattern pattern { caseSensitive := true } = .ok m) :
    ∃ p, PathBuilder.ofNode root = .ok p ∧ ∀ t r, m.match? t = some r →
      ∃ taken rest, t = taken ++ rest ∧ Text.utf8Length taken = r.consumed ∧
        p.build? r.bindings = some taken := by
  have hw := parse_wellFormed hp
  obtain ⟨p, hbuilder⟩ := PathBuilder.exists_ofNode hr
  refine ⟨p, hbuilder, fun t r hmatch => ?_⟩
  rw [eq_of_compilePattern hp hr hm] at hmatch
  obtain ⟨w, hway, rfl⟩ := Node.exists_way_of_match? hw hr hmatch
  have hnodup : (w.bound.map (·.1)).Nodup := hn.sublist (Node.names_sublist hw hr hway)
  have hvalue : root.value? ⟨w.bound⟩ = some w.taken :=
    Node.value?_of_way hd hway fun _ hp => get?_of_nodup hnodup hp
  rw [Way.result_of_nodup hnodup]
  exact ⟨w.taken, w.rest, (Node.taken_append_rest hw hr hway).symm, rfl,
    (PathBuilder.build?_eq_value? hbuilder _).trans hvalue⟩

/-- The variable in the constraint is bound as well, and is not built a second time. -/
theorem build_of_match_nested :
    ∃ root m p, parse "/:a{x*,y:b}/z".toList = .ok root ∧
      compilePattern "/:a{x*,y:b}/z".toList { caseSensitive := true } = .ok m ∧
      PathBuilder.ofNode root = .ok p ∧
      (m.match? "/y1/z?q".toList).map (·.bindings.entries) =
        some [("a".toList, "y1".toList), ("b".toList, "1".toList)] ∧
      ∀ t r, m.match? t = some r → ∃ taken rest, t = taken ++ rest ∧
        Text.utf8Length taken = r.consumed ∧ p.build? r.bindings = some taken := by
  have hp : ((parse "/:a{x*,y:b}/z".toList).toOption.map fun root =>
      (root.rawFree, root.determined, decide root.variableNames.Nodup)) =
        some (true, true, true) := by
    decide +kernel
  have hm : ((compilePattern "/:a{x*,y:b}/z".toList { caseSensitive := true }).toOption.map
      fun m => (m.match? "/y1/z?q".toList).map (·.bindings.entries)) =
        some (some [("a".toList, "y1".toList), ("b".toList, "1".toList)]) := by
    decide +kernel
  obtain ⟨root, hroot, hp⟩ := Option.map_eq_some_iff.1 hp
  obtain ⟨hr, hp⟩ := Prod.mk.inj hp
  obtain ⟨hd, hn⟩ := Prod.mk.inj hp
  obtain ⟨m, hcompile, hfound⟩ := Option.map_eq_some_iff.1 hm
  obtain ⟨p, hbuilder, hbuild⟩ := build_of_match (eq_ok_of_toOption hroot) hr hd
    (of_decide_eq_true hn) (eq_ok_of_toOption hcompile)
  exact ⟨root, m, p, eq_ok_of_toOption hroot, eq_ok_of_toOption hcompile, hbuilder, hfound, hbuild⟩

/-! ## Matching what was built -/

namespace Node

/-- Whether items are texts, and then at most one variable, which has no constraint. -/
def directItems : List Node → Bool
  | [] => true
  | [.variable _ _ none] => true
  | .text .. :: ns => directItems ns
  | _ => false

/-- Whether a segment consists of such items. -/
def directSegment : Node → Bool
  | .segment _ items => directItems items
  | _ => false

/-- Whether each segment of a path does. -/
def direct : Node → Bool
  | .path _ _ segments => segments.all directSegment
  | _ => false

end Node

/-- The names that are bound among some, each with its value. -/
def boundOf (b : Bindings) (xs : List Text) : List (Text × Text) :=
  xs.filterMap fun x => (b.get? x).map (x, ·)

theorem boundOf_append (b : Bindings) (xs ys : List Text) :
    boundOf b (xs ++ ys) = boundOf b xs ++ boundOf b ys :=
  List.filterMap_append

theorem names_boundOf {b : Bindings} {xs : List Text} (h : ∀ x ∈ xs, ∃ v, b.get? x = some v) :
    (boundOf b xs).map (·.1) = xs := by
  induction xs with
  | nil => rfl
  | cons x xs ih =>
    obtain ⟨hx, hxs⟩ := List.forall_mem_cons.1 h
    obtain ⟨v, hv⟩ := hx
    rw [boundOf, List.filterMap_cons, hv]
    exact congrArg (x :: ·) (ih hxs)

theorem get?_boundOf {b : Bindings} {xs : List Text} {p : Text × Text} (h : p ∈ boundOf b xs) :
    b.get? p.1 = some p.2 := by
  obtain ⟨x, -, hp⟩ := List.mem_filterMap.1 h
  obtain ⟨v, hv, rfl⟩ := Option.map_eq_some_iff.1 hp
  exact hv

/-- In front of what follows, the first way takes a text and binds some names as given. -/
def Retraces (b : Bindings) (followed : Text → Prop) (xs : List Text) (u : Text) (f : Ways) : Prop :=
  ∀ rest, followed rest → (f (u ++ rest)).head? = some ⟨u, rest, boundOf b xs⟩

/-- A run stops here. -/
def Stopped (rest : Text) : Prop :=
  ∀ c ∈ rest.head?, c ∈ "/?#".toList

namespace Retraces

variable {b : Bindings} {followed after : Text → Prop} {xs ys : List Text} {u v : Text} {f g : Ways}

theorem stay : Retraces b followed [] [] .stay :=
  fun _ _ => rfl

theorem andThen (hf : Retraces b followed xs u f) (hg : Retraces b after ys v g)
    (h : ∀ rest, after rest → followed (v ++ rest)) :
    Retraces b after (xs ++ ys) (u ++ v) (f.andThen g) := by
  intro rest hrest
  have hfirst := hf (v ++ rest) (h rest hrest)
  obtain ⟨more, hmore⟩ := List.head?_eq_some_iff.1 hfirst
  rw [List.append_assoc, Ways.andThen, hmore, List.flatMap_cons]
  obtain ⟨others, hothers⟩ := List.head?_eq_some_iff.1 (hg rest hrest)
  dsimp only
  rw [hothers, boundOf_append]
  rfl

/-- What may be followed by more may be followed by less. -/
theorem mono (hf : Retraces b followed xs u f) (h : ∀ rest, after rest → followed rest) :
    Retraces b after xs u f :=
  fun rest hrest => hf rest (h rest hrest)

theorem one {p : Char → Bool} {c : Char} (h : p c) : Retraces b (fun _ => True) [] [c] (.one p) := by
  intro rest _
  rw [List.singleton_append, Ways.one, if_pos h]
  rfl

theorem text (cs : Bool) (value : Text) :
    Retraces b (fun _ => True) [] value (.text cs value) := by
  induction value with
  | nil => exact stay
  | cons c value ih =>
    have hc : Ways.sameChar cs c c := by cases cs <;> simp [Ways.sameChar]
    exact (one hc).andThen ih fun _ _ => trivial

/-- A run takes all up to where it stops. -/
theorem run {name value : Text} (hv : b.get? name = some value) (h : value ∈ freeOf "/?#".toList) :
    Retraces b Stopped [name] value ((Ways.run "/?#".toList).bind name) := by
  intro rest hrest
  have hrun : ((Ways.run "/?#".toList) (value ++ rest)).head? = some ⟨value, rest, []⟩ := by
    clear hv
    induction value with
    | nil =>
      cases rest with
      | nil => rfl
      | cons c rest =>
        have hc : "/?#".toList.contains c := List.contains_iff_mem.2 (hrest c rfl)
        rw [List.nil_append, Ways.run, if_pos hc]
        rfl
    | cons c value ih =>
      obtain ⟨hc, hvalue⟩ := List.forall_mem_cons.1 h
      obtain ⟨more, hmore⟩ := List.head?_eq_some_iff.1 (ih hvalue)
      rw [List.cons_append, Ways.run, if_neg (mt List.contains_iff_mem.1 hc), hmore]
      rfl
  rw [Ways.bind, List.head?_map, hrun, boundOf, List.filterMap_cons, hv]
  rfl

end Retraces

/-- All of some names are bound to values that a run takes as a whole. -/
def Supplies (b : Bindings) (xs : List Text) : Prop :=
  ∀ x ∈ xs, ∃ v ∈ freeOf "/?#".toList, b.get? x = some v

theorem Supplies.append {b : Bindings} {xs ys : List Text} :
    Supplies b (xs ++ ys) ↔ Supplies b xs ∧ Supplies b ys :=
  List.forall_mem_append

/-- What is built is what is matched first, wherever a run would stop. -/
def Rebuilds (b : Bindings) (xs : List Text) (value : Option Text) (f : Ways) : Prop :=
  ∃ u, value = some u ∧ Retraces b Stopped xs u f

namespace Node

variable {b : Bindings} {cs : Bool}

theorem directItems_rebuilds : ∀ ns : List Node, directItems ns → Supplies b (namesOf ns) →
    Rebuilds b (namesOf ns) (valueOf? [] ns b) (waysOf cs .stay ns)
  | [], _, _ => ⟨[], rfl, .stay⟩
  | [.variable _ name none], _, hb => by
    obtain ⟨v, hv, hget⟩ := hb name (List.mem_singleton_self name)
    exact ⟨v, hget, .run hget hv⟩
  | [.text _ value], _, _ => ⟨value, rfl, (Retraces.text cs value).mono fun _ _ => trivial⟩
  | .text _ value :: m :: ns, h, hb => by
    obtain ⟨u, hu, hrest⟩ := directItems_rebuilds (m :: ns) h hb
    refine ⟨value ++ u, ?_, ?_⟩
    · rw [valueOf?_nil_cons, hu]
      rfl
    · have hfirst : Retraces b (fun _ => True) [] value ((Ways.text cs value).andThen .stay) := by
        have hstay : Retraces b (fun _ => True) [] [] .stay := .stay
        have hboth := (Retraces.text cs value).andThen hstay fun _ _ => trivial
        rwa [List.append_nil value] at hboth
      exact hfirst.andThen hrest fun _ _ => trivial

theorem directSegments_rebuilds : ∀ ns : List Node, ns.all directSegment →
    Supplies b (namesOf ns) → Rebuilds b (namesOf ns) (valueOf? ['/'] ns b) (waysOf cs .slash ns)
  | [], _, _ => ⟨[], rfl, .stay⟩
  | [.segment span items], h, hb => by
    have hnames : namesOf [segment span items] = namesOf items := List.append_nil _
    rw [hnames] at hb ⊢
    exact directItems_rebuilds items (Bool.and_eq_true_iff.1 h).1 hb
  | .segment span items :: m :: ns, h, hb => by
    obtain ⟨hitems, hns⟩ := Bool.and_eq_true_iff.1 h
    obtain ⟨hbitems, hbns⟩ := Supplies.append.1 hb
    obtain ⟨u, hu, hfirst⟩ := @directItems_rebuilds b cs items hitems hbitems
    obtain ⟨v, hv, hrest⟩ := directSegments_rebuilds (m :: ns) hns hbns
    refine ⟨u ++ ['/'] ++ v, ?_, ?_⟩
    · rw [valueOf?, value?, hu, hv]
      rfl
    · -- the variable of a segment stops at the separator behind it
      have hslash : Retraces b (fun _ => True) [] ['/'] .slash := .one rfl
      have hboth := hfirst.andThen hslash fun rest _ c hc => by
        rw [← Option.some.inj hc]
        decide
      rw [List.append_nil] at hboth
      exact hboth.andThen hrest fun _ _ => trivial

theorem direct_rebuilds : ∀ n : Node, n.direct → Supplies b n.variableNames →
    Rebuilds b n.variableNames (n.value? b) (n.ways cs)
  | .path _ absolute segments, h, hb => by
    obtain ⟨u, hu, hrest⟩ := directSegments_rebuilds segments h hb
    cases absolute with
    | true =>
      refine ⟨'/' :: u, by rw [value?, hu]; rfl, ?_⟩
      have hslash : Retraces b (fun _ => True) [] ['/'] .slash := .one rfl
      exact hslash.andThen hrest fun _ _ => trivial
    | false =>
      refine ⟨u, by rw [value?, hu]; rfl, ?_⟩
      have hstay : Retraces b (fun _ => True) [] [] .stay := .stay
      exact hstay.andThen hrest fun _ _ => trivial

/-- Such trees have neither alternations nor raw regular expressions. -/
theorem directItems_free : ∀ ns : List Node, directItems ns → allAltFree ns ∧ allRawFree ns
  | [], _ | [.variable _ _ none], _ => ⟨rfl, rfl⟩
  | .text .. :: ns, h => directItems_free ns h

theorem directSegments_free : ∀ ns : List Node, ns.all directSegment →
    allAltFree ns ∧ allRawFree ns
  | [], _ => ⟨rfl, rfl⟩
  | .segment _ items :: ns, h => by
    obtain ⟨hitems, hns⟩ := Bool.and_eq_true_iff.1 h
    obtain ⟨ha, hr⟩ := directItems_free items hitems
    obtain ⟨has, hrs⟩ := directSegments_free ns hns
    exact ⟨Bool.and_eq_true_iff.2 ⟨ha, has⟩, Bool.and_eq_true_iff.2 ⟨hr, hrs⟩⟩

theorem direct_free : ∀ n : Node, n.direct → n.altFree ∧ n.rawFree
  | .path _ _ segments, h => directSegments_free segments h

end Node

/-- **Matching undoes building.** Of a pattern the segments of which consist of texts and
    then at most one variable without constraint, no two of the same name, what is built is
    matched as a whole, and binds the variables in order to the values that it was built
    from, whatever values these are that a run takes as a whole. -/
theorem match_of_build {pattern : Text} {root : Node} {cs : Bool} (hp : parse pattern = .ok root)
    (hd : root.direct) (hn : root.variableNames.Nodup) {m : Matcher}
    (hm : compilePattern pattern { caseSensitive := cs } = .ok m) {b : Bindings}
    (hb : ∀ x ∈ root.variableNames, ∃ v ∈ freeOf "/?#".toList, b.get? x = some v) :
    ∃ p path r, PathBuilder.ofNode root = .ok p ∧ p.build? b = some path ∧
      m.match? path = some r ∧ r.consumed = Text.utf8Length path ∧
      r.bindings.names = root.variableNames ∧
      ∀ x ∈ root.variableNames, r.bindings.get? x = b.get? x := by
  obtain ⟨ha, hr⟩ := root.direct_free hd
  obtain ⟨p, hbuilder⟩ := PathBuilder.exists_ofNode hr
  obtain ⟨path, hvalue, hretraces⟩ := @Node.direct_rebuilds b cs root hd hb
  have hway := hretraces [] fun _ hc => nomatch hc
  rw [List.append_nil] at hway
  have hnames : (boundOf b root.variableNames).map (·.1) = root.variableNames :=
    names_boundOf fun x hx => (hb x hx).imp fun _ => And.right
  have hnodup : ((boundOf b root.variableNames).map (·.1)).Nodup := hnames.symm ▸ hn
  have hmatch : m.match? path = some ⟨Text.utf8Length path, ⟨boundOf b root.variableNames⟩⟩ := by
    rw [eq_of_compilePattern hp hr hm,
      Node.compiled_agrees (parse_wellFormed hp) hr (Node.shares_of_altFree root 0 ha), hway,
      Option.map_some, Way.result_of_nodup hnodup]
  refine ⟨p, path, _, hbuilder, (PathBuilder.build?_eq_value? hbuilder b).trans hvalue, hmatch, rfl,
    hnames, fun x hx => ?_⟩
  rw [← hnames] at hx
  obtain ⟨q, hq, rfl⟩ := List.mem_map.1 hx
  rw [get?_boundOf hq]
  exact get?_of_nodup hnodup hq

/-- A text with a separator in it, and two variables without any text. -/
theorem match_of_build_empty :
    ∃ root m p r, parse "'A/.':x/:y/b:z".toList = .ok root ∧
      compilePattern "'A/.':x/:y/b:z".toList { caseSensitive := true } = .ok m ∧
      PathBuilder.ofNode root = .ok p ∧
      p.build? ⟨[("z".toList, []), ("y".toList, "1.é".toList), ("x".toList, [])]⟩ =
        some "A/./1.é/b".toList ∧
      m.match? "A/./1.é/b".toList = some r ∧ r.consumed = 10 ∧
      r.bindings.names = ["x".toList, "y".toList, "z".toList] ∧
      ∀ x ∈ root.variableNames, r.bindings.get? x =
        (Bindings.mk [("z".toList, []), ("y".toList, "1.é".toList), ("x".toList, [])]).get? x := by
  let b : Bindings := ⟨[("z".toList, []), ("y".toList, "1.é".toList), ("x".toList, [])]⟩
  have hp : ((parse "'A/.':x/:y/b:z".toList).toOption.bind fun root =>
      (PathBuilder.ofNode root).toOption.map fun p =>
        (root.direct, root.variableNames, p.build? b)) =
        some (true, ["x".toList, "y".toList, "z".toList], some "A/./1.é/b".toList) := by
    decide +kernel
  obtain ⟨root, hroot, hp⟩ := Option.bind_eq_some_iff.1 hp
  obtain ⟨p, hbuilder, hp⟩ := Option.map_eq_some_iff.1 hp
  obtain ⟨hd, hp⟩ := Prod.mk.inj hp
  obtain ⟨hnames, hbuild⟩ := Prod.mk.inj hp
  have hm : (compilePattern "'A/.':x/:y/b:z".toList { caseSensitive := true }).toOption.isSome := by
    decide +kernel
  obtain ⟨m, hm⟩ := Option.isSome_iff_exists.1 hm
  have hcompile := eq_ok_of_toOption hm
  have hnodup : root.variableNames.Nodup := by
    rw [hnames]
    decide
  have hb : ∀ x ∈ root.variableNames, ∃ v ∈ freeOf "/?#".toList, b.get? x = some v := by
    have hfree : ∀ v : Text, (v.all fun c => !"/?#".toList.contains c) →
        v ∈ freeOf "/?#".toList := fun v h c hc => by simpa using List.all_eq_true.1 h c hc
    rw [hnames]
    simp only [List.forall_mem_cons]
    exact ⟨⟨[], hfree _ rfl, rfl⟩, ⟨"1.é".toList, hfree _ rfl, rfl⟩, ⟨[], hfree _ rfl, rfl⟩,
      List.forall_mem_nil _⟩
  obtain ⟨p', path, r, hbuilder', hbuild', hmatch, hconsumed, hbound, hvalues⟩ :=
    match_of_build (eq_ok_of_toOption hroot) hd hnodup hcompile hb
  obtain rfl : p = p' := Except.ok.inj ((eq_ok_of_toOption hbuilder).symm.trans hbuilder')
  obtain rfl : "A/./1.é/b".toList = path := Option.some.inj (hbuild.symm.trans hbuild')
  exact ⟨root, m, p, r, eq_ok_of_toOption hroot, hcompile, hbuilder', hbuild, hmatch,
    hconsumed.trans (by decide), hbound.trans hnames, hvalues⟩

end PathRouting.Pattern
