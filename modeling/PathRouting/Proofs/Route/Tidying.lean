/-
  Trees that are tidied up.

  A tree may hold more nodes than its routes need: annotations, and containers without pattern
  below other containers. There are three rules, each for one node anywhere in a tree: an
  annotation is erased, the children of a container without pattern move up into the container
  around it, and a container without pattern is given a blank one.

  * `match?_blank`: a blank pattern matches the start of every path, takes nothing off and binds
    nothing.
  * `Step.report_eq`: a rule changes neither what a tree answers nor what it calls.
  * `tidying_preserves`: nor do any number of rules, in any order; and the patterns of a tree stay
    the same unless blank ones are added.
-/
import PathRouting.Proofs.Pattern.Scanning
import PathRouting.Proofs.Pattern.Slots
import PathRouting.Proofs.Route.Calls
import PathRouting.Proofs.Route.Nested
import Mathlib.Logic.Relation

namespace PathRouting

open Pattern Regex

/-! ## Blank patterns -/

namespace Pattern

/-- White space only. -/
def Blank (raw : Text) : Prop := ∀ c ∈ raw, isSpace c

/-- The tree of a blank pattern. -/
def blankRoot : Node := .path ⟨0, 0⟩ false []

/-- What a blank pattern is compiled to. -/
def blankMatcher : Matcher := ⟨⟨Matcher.anchored (.ofText []), .look .textStart⟩, []⟩

theorem parse_blank {raw : Text} (h : Blank raw) : parse raw = .ok blankRoot := by
  have hcut := Cut.spaces h 0 []
  rw [List.append_nil, Nat.zero_add] at hcut
  rw [parse_eq_feed, hcut.tokens_eq]
  show Cursor.finish .initial raw.length raw.length = .ok blankRoot
  rw [Cursor.finish, if_neg (Nat.lt_irrefl _)]
  rfl

/-- A blank pattern compiles under any valid options, and to the same. -/
theorem compile_blank {o : Options} (ho : o.check = .ok ()) :
    compile blankRoot o = .ok blankMatcher := by
  have hread : Regex.compile (!o.caseSensitive) (Matcher.anchored (blankRoot.source o)) =
      .ok blankMatcher.regex := by
    cases o.caseSensitive <;> rfl
  exact compile_of_regex ho hread rfl

theorem match?_blank (path : Text) : blankMatcher.match? path = some ⟨0, .empty⟩ := by
  cases path <;> rfl

end Pattern

namespace RoutePattern

theorem ofText_blank {raw : Text} {o : Options} (h : Blank raw) (ho : o.check = .ok ()) :
    ofText raw o = .ok ⟨raw, blankRoot, blankMatcher⟩ := by
  rw [ofText, parse_blank h]
  show (compile blankRoot o).bind _ = _
  rw [compile_blank ho]
  rfl

/-- Options are valid if a pattern has been compiled under them. -/
theorem check_of_ofText {raw : Text} {o : Options} {p : RoutePattern} (h : ofText raw o = .ok p) :
    o.check = .ok () := by
  obtain ⟨root, -, h⟩ := bind_eq_ok.1 h
  obtain ⟨m, h, -⟩ := bind_eq_ok.1 h
  obtain ⟨u, hu, -⟩ := bind_eq_ok.1 h
  exact hu

end RoutePattern

namespace RouteTree

variable {R C : Type}

/-! ## Rules -/

/-- The rules by which a tree is tidied up. -/
inductive Rule where
  | erase
  | splice
  | fill

/-- What a rule makes of the root of a tree. -/
inductive Rule.Applies : Rule → RouteTree R C → RouteTree R C → Prop
  /-- an annotation goes, its child stays -/
  | erase {payload child} : Applies .erase (.annotated payload child) child
  /-- the children of an inner container without pattern stand in its place -/
  | splice {p before children after} :
      Applies .splice (.container p (before ++ .container none children :: after))
        (.container p (before ++ children ++ after))
  /-- a container without pattern gets one of white space only -/
  | fill {raw o children t} : Blank raw → partialRoute raw o children = .ok t →
      Applies .fill (.container none children) t

/-- What one of some rules makes of a tree, at its root or anywhere below. -/
inductive Step (rules : Set Rule) : RouteTree R C → RouteTree R C → Prop
  | root {rule s t} : rule ∈ rules → rule.Applies s t → Step rules s t
  | child {p before s t after} : Step rules s t →
      Step rules (.container p (before ++ s :: after)) (.container p (before ++ t :: after))
  | whenTrue {condition s t no} : Step rules s t →
      Step rules (.choice condition (some s) no) (.choice condition (some t) no)
  | whenFalse {condition yes s t} : Step rules s t →
      Step rules (.choice condition yes (some s)) (.choice condition yes (some t))
  | annotated {payload s t} : Step rules s t →
      Step rules (.annotated payload s) (.annotated payload t)

/-- What some rules make of a tree, one after the other. -/
abbrev Tidies (rules : Set Rule) : RouteTree R C → RouteTree R C → Prop :=
  Relation.ReflTransGen (Step rules)

/-! ## Answers and calls -/

section
variable {s t : RouteTree R C} {rules : Set Rule} (path : Text) (context : C) (b : Bindings)

theorem Rule.Applies.report_eq {rule : Rule} (h : rule.Applies s t) :
    t.report path context b = s.report path context b := by
  cases h with
  | erase => rw [RouteTree.report_eq (.annotated _ _), reported]
  | @splice p before children after =>
    -- the reports of the children come in the same order, up to the first answer
    have hfirst : ∀ path b, Report.first ((before ++ children ++ after).map
        (·.report path context b)) = .first ((before ++ container none children :: after).map
          (·.report path context b)) := by
      intro path b
      have hindex : (container none children).report path context b =
          .first (children.map (·.report path context b)) := RouteTree.report_eq _ path context b
      simp only [List.map_append, List.map_cons, Report.first_append, Report.first_cons, hindex,
        Report.orElse_assoc]
    rw [RouteTree.report_eq, RouteTree.report_eq]
    cases p with
    | none => exact hfirst path b
    | some p =>
      simp only [reported]
      cases p.match? path with
      | none => rfl
      | some m => exact hfirst _ _
  | @fill raw o children _ hblank ht =>
    obtain ⟨p, hp, rfl⟩ := partialRoute_eq_ok.1 ht
    have hraw := RoutePattern.ofText_blank hblank (RoutePattern.check_of_ofText hp)
    obtain rfl := Except.ok.inj (hp.symm.trans hraw)
    rw [RouteTree.report_eq, RouteTree.report_eq, reported, reported, RoutePattern.match?,
      match?_blank]
    exact congrArg (fun rest => Report.first (children.map (·.report rest context b)))
      (Text.dropUtf8_append [] path)

/-- A rule changes neither what a tree answers nor what it calls. -/
theorem Step.report_eq (h : Step rules s t) :
    t.report path context b = s.report path context b := by
  induction h generalizing path b with
  | root _ h => exact h.report_eq path context b
  | @child p before s t after _ ih =>
    rw [RouteTree.report_eq, RouteTree.report_eq (.container p _)]
    cases p <;> simp only [reported, List.map_append, List.map_cons, ih]
  | whenTrue _ ih =>
    rw [RouteTree.report_eq, RouteTree.report_eq (.choice _ _ _), reported, reported]
    split
    · simp only [Option.elim_some, ih]
    · rfl
  | whenFalse _ ih =>
    rw [RouteTree.report_eq, RouteTree.report_eq (.choice _ _ _), reported, reported]
    split
    · rfl
    · simp only [Option.elim_some, ih]
  | annotated _ ih =>
    rw [RouteTree.report_eq, RouteTree.report_eq (.annotated _ _), reported, reported, ih]

end

/-! ## Patterns and data -/

theorem walkAll_eq (enter : RouteTree R C → Bool) (ts : List (RouteTree R C)) :
    walkAll enter ts = ts.flatMap (walk enter) := by
  induction ts with
  | nil => rfl
  | cons t ts ih => rw [walkAll, ih, List.flatMap_cons]

theorem walkBranch_eq (enter : RouteTree R C → Bool) (o : Option (RouteTree R C)) :
    walkBranch enter o = o.toList.flatMap (walk enter) := by
  cases o with
  | none => rfl
  | some t => exact (List.append_nil _).symm

theorem nodes_container (p : Option RoutePattern) (children : List (RouteTree R C)) :
    (container p children).nodes = container p children :: children.flatMap nodes := by
  rw [nodes, walk, if_pos rfl, walkAll_eq]
  rfl

theorem nodes_choice (condition : Bindings → C → Bool) (yes no : Option (RouteTree R C)) :
    (choice condition yes no).nodes =
      choice condition yes no :: (yes.toList ++ no.toList).flatMap nodes := by
  rw [nodes, walk, if_pos rfl, walkBranch_eq, walkBranch_eq, ← List.flatMap_append]
  rfl

theorem nodes_annotated (payload : Json) (child : RouteTree R C) :
    (annotated payload child).nodes = annotated payload child :: child.nodes := by
  rw [nodes, walk, if_pos rfl]
  rfl

theorem patterns_nodes (ts : List (RouteTree R C)) :
    ((ts.flatMap nodes).filterMap pattern?).map (·.raw) = ts.flatMap patterns := by
  rw [List.filterMap_flatMap, List.map_flatMap]
  rfl

theorem patterns_container (p : Option RoutePattern) (children : List (RouteTree R C)) :
    (container p children).patterns = p.toList.map (·.raw) ++ children.flatMap patterns := by
  rw [patterns, nodes_container, ← patterns_nodes]
  cases p <;> rfl

theorem patterns_choice (condition : Bindings → C → Bool) (yes no : Option (RouteTree R C)) :
    (choice condition yes no).patterns = (yes.toList ++ no.toList).flatMap patterns := by
  rw [patterns, nodes_choice, ← patterns_nodes]
  rfl

theorem patterns_annotated (payload : Json) (child : RouteTree R C) :
    (annotated payload child).patterns = child.patterns := by
  rw [patterns, nodes_annotated]
  rfl

/-- A rule leaves the patterns as they are, unless it adds a blank one. -/
theorem Step.patterns_eq {s t : RouteTree R C} {rules : Set Rule} (h : Step rules s t)
    (hrules : Rule.fill ∉ rules) : t.patterns = s.patterns := by
  induction h with
  | root hrule h =>
    cases h with
    | erase => exact (patterns_annotated _ _).symm
    | splice =>
      simp only [patterns_container, List.flatMap_append, List.flatMap_cons, List.append_assoc,
        Option.toList_none, List.map_nil, List.nil_append]
    | fill => exact absurd hrule hrules
  | child _ ih =>
    simp only [patterns_container, List.flatMap_append, List.flatMap_cons, ih]
  | whenTrue _ ih | whenFalse _ ih =>
    simp only [patterns_choice, List.flatMap_append, List.flatMap_cons, Option.toList_some, ih]
  | annotated _ ih => rw [patterns_annotated, patterns_annotated, ih]

/-! ## Trees without annotations -/

mutual

/-- A tree with all annotations erased. -/
def unannotated : RouteTree R C → RouteTree R C
  | .route p answer => .route p answer
  | .container p children => .container p (unannotatedAll children)
  | .choice condition yes no =>
    .choice condition (unannotatedBranch yes) (unannotatedBranch no)
  | .annotated _ child => unannotated child

/-- Trees with all annotations erased. -/
def unannotatedAll : List (RouteTree R C) → List (RouteTree R C)
  | [] => []
  | t :: ts => unannotated t :: unannotatedAll ts

/-- A branch, if there is one, with all annotations erased. -/
def unannotatedBranch : Option (RouteTree R C) → Option (RouteTree R C)
  | none => none
  | some t => some (unannotated t)

end

/-- What is made of a part of a tree is made of the tree. -/
theorem Tidies.within {rules : Set Rule} {s t : RouteTree R C} (f : RouteTree R C → RouteTree R C)
    (hf : ∀ {u v}, Step rules u v → Step rules (f u) (f v)) (h : Tidies rules s t) :
    Tidies rules (f s) (f t) :=
  Relation.ReflTransGen.lift f (fun _ _ => hf) _ _ h

mutual

/-- All annotations are erased one by one. -/
theorem tidies_unannotated : ∀ t : RouteTree R C, Tidies {.erase} t t.unannotated
  | .route .. => .refl
  | .container p children => tidies_unannotatedAll p children []
  | .choice condition yes no =>
    .trans (tidies_whenTrue condition yes no)
      (tidies_whenFalse condition (unannotatedBranch yes) no)
  | .annotated _ child => .head (.root rfl .erase) (tidies_unannotated child)

theorem tidies_unannotatedAll (p : Option RoutePattern) :
    ∀ ts before : List (RouteTree R C), Tidies {.erase} (container p (before ++ ts))
      (container p (before ++ unannotatedAll ts))
  | [], before => .refl
  | t :: ts, before => by
    have hfirst := (tidies_unannotated t).within (fun u => container p (before ++ u :: ts)) .child
    have hrest := tidies_unannotatedAll p ts (before ++ [t.unannotated])
    rw [List.append_assoc, List.append_assoc] at hrest
    exact hfirst.trans hrest

theorem tidies_whenTrue (condition : Bindings → C → Bool) :
    ∀ yes no : Option (RouteTree R C), Tidies {.erase} (choice condition yes no)
      (choice condition (unannotatedBranch yes) no)
  | none, _ => .refl
  | some t, no => (tidies_unannotated t).within (fun u => choice condition (some u) no) .whenTrue

theorem tidies_whenFalse (condition : Bindings → C → Bool) :
    ∀ yes no : Option (RouteTree R C), Tidies {.erase} (choice condition yes no)
      (choice condition yes (unannotatedBranch no))
  | _, none => .refl
  | yes, some t => (tidies_unannotated t).within (fun u => choice condition yes (some u)) .whenFalse

end

theorem payloads_nodes (ts : List (RouteTree R C)) :
    (ts.flatMap nodes).filterMap payload? = ts.flatMap payloads :=
  List.filterMap_flatMap

mutual

theorem payloads_unannotated : ∀ t : RouteTree R C, t.unannotated.payloads = []
  | .route p answer => rfl
  | .container p children => by
    rw [unannotated, payloads, nodes_container]
    exact (payloads_nodes _).trans (payloads_unannotatedAll children)
  | .choice condition yes no => by
    rw [unannotated, payloads, nodes_choice]
    refine (payloads_nodes _).trans ?_
    rw [List.flatMap_append, payloads_unannotatedBranch yes, payloads_unannotatedBranch no]
    rfl
  | .annotated payload child => payloads_unannotated child

theorem payloads_unannotatedAll : ∀ ts : List (RouteTree R C),
    (unannotatedAll ts).flatMap payloads = []
  | [] => rfl
  | t :: ts => by
    rw [unannotatedAll, List.flatMap_cons, payloads_unannotated t, payloads_unannotatedAll ts]
    rfl

theorem payloads_unannotatedBranch : ∀ o : Option (RouteTree R C),
    (unannotatedBranch o).toList.flatMap payloads = []
  | none => rfl
  | some t => by
    rw [unannotatedBranch, Option.toList_some, List.flatMap_singleton, payloads_unannotated t]

end

/-! ## Tidy trees -/

/-- **Tidying.** Trees that come from each other by erasing annotations, by moving the children of
    inner containers without pattern up, and by giving containers without pattern a blank one,
    anywhere, in any order and any number of times, answer every path alike under the same
    bindings, and decide the same conditions and call the same routes in the same order with
    the same bindings. Their patterns are the same, too, unless blank ones are added. All
    annotations of a tree can be erased in this way, and blank patterns compile under all
    valid options. -/
theorem tidying_preserves (t : RouteTree R C) :
    (∀ rules u, Tidies rules t u →
      (∀ path context b, u.resolve path context b = t.resolve path context b ∧
        u.calls path context b = t.calls path context b) ∧
      (.fill ∉ rules → u.patterns = t.patterns)) ∧
    (Tidies {.erase} t t.unannotated ∧ t.unannotated.payloads = []) ∧
    ∀ (raw : Text) (o : Options) (children : List (RouteTree R C)), Blank raw →
      o.check = .ok () → ∃ u, partialRoute raw o children = .ok u := by
  refine ⟨fun rules u h => ⟨fun path context b => ?_, fun hrules => ?_⟩,
    ⟨tidies_unannotated t, payloads_unannotated t⟩, fun raw o children hblank ho => ?_⟩
  · have hreport : u.report path context b = t.report path context b := by
      induction h with
      | refl => rfl
      | tail _ hstep ih => exact (hstep.report_eq path context b).trans ih
    exact ⟨congrArg Report.found hreport, congrArg Report.calls hreport⟩
  · induction h with
    | refl => rfl
    | tail _ hstep ih => exact (hstep.patterns_eq hrules).trans ih
  · exact ⟨_, partialRoute_eq_ok.2 ⟨_, RoutePattern.ofText_blank hblank ho, rfl⟩⟩

/-- A choice below an annotation and two containers, which answers the empty path. -/
theorem tidying_preserves_choice :
    let holds : Bindings → Unit → Bool := fun b _ => b.size = 0
    let answer : Bindings → Unit → ℕ := fun b _ => b.size
    let leaf := choice holds (some (route ⟨[' '], blankRoot, blankMatcher⟩ answer)) none
    let t := annotated .null (index [index [leaf]])
    (index [leaf]).resolve [] () .empty = some ⟨0, .empty⟩ ∧
      (index [leaf]).calls [] () .empty =
        [.condition holds .empty (), .answer answer .empty ()] ∧
      (index [leaf]).patterns = t.patterns ∧
      ∃ u, partialRoute ['\t'] {} [leaf] = .ok u ∧ u.resolve [] () .empty = some ⟨0, .empty⟩ := by
  intro holds answer leaf t
  have hsplice : Rule.splice.Applies (container none ([] ++ index [leaf] :: []))
      (container none ([] ++ [leaf] ++ [])) := .splice
  have htidy : Tidies {.erase, .splice} t (index [leaf]) :=
    .head (.root (by simp) .erase) (.single (.root (by simp) hsplice))
  have hblank : Blank ['\t'] := by simp [Blank, isSpace]
  obtain ⟨hsame, hpatterns⟩ := (tidying_preserves t).1 _ _ htidy
  obtain ⟨u, hu⟩ := (tidying_preserves t).2.2 ['\t'] {} [leaf] hblank (check_default false)
  have hfill : Tidies {.fill} (index [leaf]) u := .single (.root rfl (.fill hblank hu))
  obtain ⟨hfilled, -⟩ := (tidying_preserves (index [leaf])).1 _ _ hfill
  exact ⟨(hsame [] () .empty).1, (hsame [] () .empty).2, hpatterns (by simp), u, hu,
    (hfilled [] () .empty).1⟩

end RouteTree

end PathRouting
