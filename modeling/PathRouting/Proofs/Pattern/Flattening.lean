/-
  The tokens of a pattern and its tree.

  * `Node.flatten` writes a tree as lexemes, and `Node.declarations` lists its
    variables with their constraints.
  * `variableTails` lists the variables among lexemes with what follows them, and `unit?`
    is what a variable in front of some lexemes takes as its constraint.
  * `Cursor.written`: what was read into an unfinished tree. A token is written at its
    end.
  * `Cursor.Bound`: each variable of an unfinished tree has what follows it as its
    constraint, but for those that still await one.
  * `parse_flatten`: the tree of a pattern is written as the tokens of the pattern, and
    each variable has what follows it.
-/
import PathRouting.Proofs.Pattern.Streaming
import Mathlib.Data.List.Forall2

namespace PathRouting.Pattern

/-! ## Writing a tree -/

namespace Node

mutual

/-- The lexemes of a tree. -/
def flatten : Node → List Lexeme
  | .path _ absolute segments =>
    (if absolute then [.pathSeparator] else []) ++ flattenWith .pathSeparator segments
  | .segment _ items => flattenAll items
  | .alternation _ branches => .altStart :: flattenWith .altSeparator branches ++ [.altEnd]
  | .variable _ name (some c) => .variable name :: c.flatten
  | .variable _ name none => [.variable name]
  | .wildcard _ greedy => [.wildcard greedy]
  | .regexp _ body => [.regexp body]
  | .text _ value => [.text value]

/-- The lexemes of several trees one behind the other. -/
def flattenAll : List Node → List Lexeme
  | [] => []
  | n :: ns => n.flatten ++ flattenAll ns

/-- The lexemes of several trees with a separator between any two. -/
def flattenWith (separator : Lexeme) : List Node → List Lexeme
  | [] => []
  | [n] => n.flatten
  | n :: m :: ns => n.flatten ++ separator :: flattenWith separator (m :: ns)

end

mutual

/-- The variables of a tree in the order in which they stand, each with its
    constraint. -/
def declarations : Node → List (Text × Option Node)
  | .path _ _ ns | .segment _ ns | .alternation _ ns => declarationsOf ns
  | .variable _ name (some c) => (name, some c) :: c.declarations
  | .variable _ name none => [(name, none)]
  | .wildcard .. | .regexp .. | .text .. => []

/-- The variables of several trees. -/
def declarationsOf : List Node → List (Text × Option Node)
  | [] => []
  | n :: ns => n.declarations ++ declarationsOf ns

end

theorem flattenAll_eq (ns : List Node) : flattenAll ns = ns.flatMap flatten := by
  induction ns with
  | nil => rfl
  | cons n ns ih => rw [flattenAll, ih, List.flatMap_cons]

theorem declarationsOf_eq (ns : List Node) : declarationsOf ns = ns.flatMap declarations := by
  induction ns with
  | nil => rfl
  | cons n ns ih => rw [declarationsOf, ih, List.flatMap_cons]

/-- Each tree but the last one has a separator behind it. -/
theorem flattenWith_concat (separator : Lexeme) (ns : List Node) (n : Node) :
    flattenWith separator (ns ++ [n]) =
      (ns.flatMap fun m => m.flatten ++ [separator]) ++ n.flatten := by
  induction ns with
  | nil => rfl
  | cons m ns ih =>
    have hcons : flattenWith separator (m :: (ns ++ [n])) =
        m.flatten ++ separator :: flattenWith separator (ns ++ [n]) := by
      cases ns <;> rfl
    simp [hcons, ih]

end Node

/-! ## What follows a variable -/

/-- The lexemes up to the `}` that closes an alternation in which `depth` more are
    open. -/
def throughEnd : ℕ → List Lexeme → List Lexeme
  | _, [] => []
  | 0, .altEnd :: _ => [.altEnd]
  | depth + 1, .altEnd :: xs => .altEnd :: throughEnd depth xs
  | depth, .altStart :: xs => .altStart :: throughEnd (depth + 1) xs
  | depth, x :: xs => x :: throughEnd depth xs

/-- What a variable in front of some lexemes has as its constraint: a text, a wildcard, a
    raw regular expression or a whole alternation. -/
def unit? : List Lexeme → Option (List Lexeme)
  | .text value :: _ => some [.text value]
  | .wildcard greedy :: _ => some [.wildcard greedy]
  | .regexp body :: _ => some [.regexp body]
  | .altStart :: xs => some (.altStart :: throughEnd 0 xs)
  | .variable _ :: _ | .pathSeparator :: _ | .altSeparator :: _ | .altEnd :: _ | [] => none

/-- The variables among lexemes, each with what follows it. -/
def variableTails : List Lexeme → List (Text × List Lexeme)
  | [] => []
  | .variable name :: xs => (name, xs) :: variableTails xs
  | _ :: xs => variableTails xs

/-- A tree that may be the constraint of a variable. -/
def Node.IsUnit (n : Node) : Prop :=
  n.kind ∈ [Node.Kind.text, .wildcard, .regexp, .alternation]

/-- A variable has what follows it as its constraint, and none if that cannot be one. -/
structure ConstrainedBy (v : Text × Option Node) (x : Text × List Lexeme) : Prop where
  name : v.1 = x.1
  constraint : v.2.map Node.flatten = unit? x.2
  isUnit : ∀ c ∈ v.2, c.IsUnit

theorem map_flatten_of_constrained {vs : List (Text × Option Node)} {xs : List (Text × List Lexeme)}
    (h : List.Forall₂ ConstrainedBy vs xs) :
    vs.map (fun v => (v.1, v.2.map Node.flatten)) = xs.map fun x => (x.1, unit? x.2) := by
  rw [← List.forall₂_eq_eq_eq, List.forall₂_map_left_iff, List.forall₂_map_right_iff]
  exact h.imp fun _ _ h => Prod.ext h.name h.constraint

/-- The variables among lexemes have what follows them, if yet others stand behind. -/
def Binds (vs : List (Text × Option Node)) (xs after : List Lexeme) : Prop :=
  List.Forall₂ ConstrainedBy vs ((variableTails xs).map fun x => (x.1, x.2 ++ after))

theorem variableTails_append (xs ys : List Lexeme) :
    variableTails (xs ++ ys) =
      ((variableTails xs).map fun x => (x.1, x.2 ++ ys)) ++ variableTails ys := by
  induction xs with
  | nil => rfl
  | cons x xs ih => cases x <;> simp [variableTails, ih]

namespace Binds

variable {vs ws : List (Text × Option Node)} {xs ys after : List Lexeme}

theorem append (ha : Binds vs xs (ys ++ after)) (hb : Binds ws ys after) :
    Binds (vs ++ ws) (xs ++ ys) after := by
  unfold Binds
  rw [variableTails_append, List.map_append, List.map_map]
  refine List.rel_append ?_ hb
  simpa only [Binds, Function.comp_def, List.append_assoc] using ha

/-- The same behind a lexeme that is no variable. -/
theorem cons {x : Lexeme} (hx : variableTails [x] = []) (h : Binds vs xs after) :
    Binds vs (x :: xs) after := by
  have hxs : variableTails (x :: xs) = variableTails xs := by
    rw [← List.singleton_append, variableTails_append, hx]
    rfl
  rw [Binds, hxs]
  exact h

theorem concat {x : Lexeme} (hx : variableTails [x] = []) (h : Binds vs xs (x :: after)) :
    Binds vs (xs ++ [x]) after := by
  have hnil : Binds [] [x] after := by
    rw [Binds, hx]
    exact .nil
  have := h.append hnil
  rwa [List.append_nil] at this

/-- One variable, in front of what it has as its constraint. -/
theorem declare {name : Text} {c : Option Node} (h : c.map Node.flatten = unit? (xs ++ after))
    (hc : ∀ n ∈ c, n.IsUnit) (hb : Binds vs xs after) :
    Binds ((name, c) :: vs) (.variable name :: xs) after :=
  List.Forall₂.cons ⟨rfl, h, hc⟩ hb

theorem flatMap {ns : List Node} {f : Node → List Lexeme}
    (h : ∀ n ∈ ns, ∀ after, Binds n.declarations (f n) after) (after : List Lexeme) :
    Binds (ns.flatMap Node.declarations) (ns.flatMap f) after := by
  induction ns generalizing after with
  | nil => exact .nil
  | cons n ns ih =>
    rw [List.flatMap_cons, List.flatMap_cons]
    exact (h n (by simp) _).append (ih (fun m hm => h m (by simp [hm])) after)

end Binds

/-! ## Alternations are whole -/

theorem throughEnd_cons {x : Lexeme} (hs : x ≠ .altStart) (he : x ≠ .altEnd) (d : ℕ)
    (xs : List Lexeme) : throughEnd d (x :: xs) = x :: throughEnd d xs := by
  cases x <;> simp_all [throughEnd]

namespace Node

mutual

/-- A whole tree closes just what it opens. -/
theorem throughEnd_flatten : ∀ (n : Node) (d : ℕ) (after : List Lexeme),
    throughEnd d (n.flatten ++ after) = n.flatten ++ throughEnd d after
  | .path _ absolute segments, d, after => by
    have h := @throughEnd_flattenWith .pathSeparator (by simp) (by simp) segments d after
    cases absolute <;> simp [flatten, throughEnd_cons, h]
  | .segment _ items, d, after => throughEnd_flattenAll items d after
  | .alternation _ branches, d, after => by
    have h := @throughEnd_flattenWith .altSeparator (by simp) (by simp) branches (d + 1)
      (.altEnd :: after)
    simp [flatten, throughEnd, h]
  | .variable _ name (some c), d, after => by
    simp [flatten, throughEnd_cons, throughEnd_flatten c d after]
  | .variable _ name none, d, after => by simp [flatten, throughEnd_cons]
  | .wildcard _ greedy, d, after => by simp [flatten, throughEnd_cons]
  | .regexp _ body, d, after => by simp [flatten, throughEnd_cons]
  | .text _ value, d, after => by simp [flatten, throughEnd_cons]

theorem throughEnd_flattenAll : ∀ (ns : List Node) (d : ℕ) (after : List Lexeme),
    throughEnd d (flattenAll ns ++ after) = flattenAll ns ++ throughEnd d after
  | [], _, _ => rfl
  | n :: ns, d, after => by
    rw [flattenAll, List.append_assoc, throughEnd_flatten n, throughEnd_flattenAll ns,
      List.append_assoc]

theorem throughEnd_flattenWith {separator : Lexeme} (hs : separator ≠ .altStart)
    (he : separator ≠ .altEnd) : ∀ (ns : List Node) (d : ℕ) (after : List Lexeme),
    throughEnd d (flattenWith separator ns ++ after) =
      flattenWith separator ns ++ throughEnd d after
  | [], _, _ => rfl
  | [n], d, after => throughEnd_flatten n d after
  | n :: m :: ns, d, after => by
    rw [flattenWith, List.append_assoc, throughEnd_flatten n, List.cons_append,
      throughEnd_cons hs he, throughEnd_flattenWith hs he (m :: ns), List.append_assoc,
      List.cons_append]

end

/-- What a variable takes from a stream that goes on with a unit is that unit. -/
theorem IsUnit.unit? {n : Node} (h : n.IsUnit) (after : List Lexeme) :
    unit? (n.flatten ++ after) = some n.flatten := by
  cases n with
  | text | wildcard | regexp => rfl
  | alternation span branches =>
    have h := @throughEnd_flattenWith .altSeparator (by simp) (by simp) branches 0
      (.altEnd :: after)
    simp [flatten, Pattern.unit?, h, throughEnd]
  | _ => simp [IsUnit, kind] at h

end Node

/-! ## Unfinished trees -/

namespace OpenSegment

variable {s : OpenSegment} {n : Node}

theorem flatten_close (s : OpenSegment) :
    s.close.flatten = s.settled.reverse.flatMap Node.flatten :=
  Node.flattenAll_eq _

theorem declarations_close (s : OpenSegment) :
    s.close.declarations = s.settled.reverse.flatMap Node.declarations :=
  Node.declarationsOf_eq _

theorem flatten_attach (s : OpenSegment) (n : Node) :
    (s.attach n).close.flatten = s.close.flatten ++ n.flatten := by
  simp only [flatten_close]
  cases h : s.awaiting with
  | none => simp [attach, settled, h]
  | some v => simp [attach, settled, h, Node.flatten]

theorem flatten_attachVariable (s : OpenSegment) (span : Span) (name : Text) :
    (s.attachVariable span name).close.flatten = s.close.flatten ++ [.variable name] := by
  simp [flatten_close, attachVariable, settled, Node.flatten]

/-- The variable that awaits a constraint. -/
def pending (s : OpenSegment) : List Lexeme :=
  match s.awaiting with
  | some (_, name) => [.variable name]
  | none => []

/-- Each variable has what follows it, but for the one that awaits a constraint. -/
def Bound (s : OpenSegment) : Prop :=
  ∀ after, Binds (s.items.reverse.flatMap Node.declarations) (s.items.reverse.flatMap Node.flatten)
    (s.pending ++ after)

theorem Bound.close (hs : s.Bound) {after : List Lexeme} (ha : unit? after = none) :
    Binds s.close.declarations s.close.flatten after := by
  have h := hs after
  rw [flatten_close, declarations_close]
  cases hw : s.awaiting with
  | none => simpa [settled, pending, hw] using h
  | some v =>
    have hv : Binds [(v.2, none)] [.variable v.2] after :=
      .declare ha.symm (by simp) .nil
    simp only [pending, hw] at h
    simpa [settled, hw, Node.flatten, Node.declarations] using h.append hv

theorem Bound.attachVariable (hs : s.Bound) (span : Span) (name : Text) :
    (s.attachVariable span name).Bound := by
  intro after
  have h := hs.close (show unit? (.variable name :: after) = none from rfl)
  rwa [flatten_close, declarations_close] at h

theorem Bound.attach (hs : s.Bound) (hu : n.IsUnit)
    (hn : ∀ after, Binds n.declarations n.flatten after) : (s.attach n).Bound := by
  intro after
  have h := hs (n.flatten ++ after)
  cases hw : s.awaiting with
  | none =>
    simp only [pending, hw, List.nil_append] at h
    simpa [OpenSegment.attach, pending, hw] using h.append (hn after)
  | some v =>
    have hv : Binds ((v.2, some n) :: n.declarations) (.variable v.2 :: n.flatten) after := by
      refine .declare (hu.unit? after).symm ?_ (hn after)
      rintro m ⟨⟩
      exact hu
    simp only [pending, hw, List.singleton_append] at h
    simpa [OpenSegment.attach, pending, hw, Node.flatten, Node.declarations] using h.append hv

end OpenSegment

/-- A path without a segment at the cursor has no other segments, and no separator. -/
def OpenPath.Begun (p : OpenPath) : Prop :=
  p.current = none → p.segments = [] ∧ p.absolute = false

namespace OpenPath

variable {p : OpenPath} {n : Node}

/-- The segment at the cursor, or a first one. -/
def opened (p : OpenPath) (start : ℕ) : OpenSegment :=
  p.current.getD ⟨start, start, [], none⟩

@[simp] theorem attach_current (p : OpenPath) (n : Node) :
    (p.attach n).current = some ((p.opened n.span.start).attach n) := by
  cases h : p.current <;> simp [attach, opened, h]

@[simp] theorem attach_segments (p : OpenPath) (n : Node) :
    (p.attach n).segments = p.segments := by
  cases h : p.current <;> simp [attach, h]

@[simp] theorem attach_absolute (p : OpenPath) (n : Node) :
    (p.attach n).absolute = p.absolute := by
  cases h : p.current <;> simp [attach, h]

@[simp] theorem attachVariable_current (p : OpenPath) (span : Span) (name : Text) :
    (p.attachVariable span name).current =
      some ((p.opened span.start).attachVariable span name) := by
  cases h : p.current <;> simp [attachVariable, opened, h]

@[simp] theorem attachVariable_segments (p : OpenPath) (span : Span) (name : Text) :
    (p.attachVariable span name).segments = p.segments := by
  cases h : p.current <;> simp [attachVariable, h]

@[simp] theorem attachVariable_absolute (p : OpenPath) (span : Span) (name : Text) :
    (p.attachVariable span name).absolute = p.absolute := by
  cases h : p.current <;> simp [attachVariable, h]

@[simp] theorem separate_current (p : OpenPath) (span : Span) :
    (p.separate span).current = some ⟨span.start, span.stop, [], none⟩ := by
  cases h : p.current <;> simp [separate, h]

theorem begun_empty (start : ℕ) : (empty start).Begun := fun _ => ⟨rfl, rfl⟩

theorem begun_of_current {s : OpenSegment} (h : p.current = some s) : p.Begun := by
  intro hc
  rw [h] at hc
  cases hc

theorem flatten_empty (start : ℕ) : (empty start).close.flatten = [] := rfl

theorem flatten_close {s : OpenSegment} (hs : p.current = some s) :
    p.close.flatten = (if p.absolute then [.pathSeparator] else []) ++
      (p.segments.reverse.flatMap fun n => n.flatten ++ [.pathSeparator]) ++ s.close.flatten := by
  simp [close, hs, Node.flatten, Node.flattenWith_concat]

theorem declarations_close {s : OpenSegment} (hs : p.current = some s) :
    p.close.declarations =
      p.segments.reverse.flatMap Node.declarations ++ s.close.declarations := by
  simp [close, hs, Node.declarations, Node.declarationsOf_eq]

/-- Opening a first segment writes nothing. -/
theorem Begun.flatten_close (hp : p.Begun) (start : ℕ) :
    p.close.flatten = (if p.absolute then [.pathSeparator] else []) ++
      (p.segments.reverse.flatMap fun n => n.flatten ++ [.pathSeparator]) ++
        (p.opened start).close.flatten := by
  cases hc : p.current with
  | none =>
    obtain ⟨hs, ha⟩ := hp hc
    simp [close, opened, hc, hs, ha, Node.flatten, Node.flattenWith, OpenSegment.flatten_close,
      OpenSegment.settled]
  | some s => simp [OpenPath.flatten_close hc, opened, hc]

theorem Begun.flatten_attach (hp : p.Begun) (n : Node) :
    (p.attach n).close.flatten = p.close.flatten ++ n.flatten := by
  rw [OpenPath.flatten_close (attach_current p n), hp.flatten_close n.span.start,
    OpenSegment.flatten_attach, attach_segments, attach_absolute, ← List.append_assoc]

theorem Begun.flatten_attachVariable (hp : p.Begun) (span : Span) (name : Text) :
    (p.attachVariable span name).close.flatten = p.close.flatten ++ [.variable name] := by
  rw [OpenPath.flatten_close (attachVariable_current p span name), hp.flatten_close span.start,
    OpenSegment.flatten_attachVariable, attachVariable_segments, attachVariable_absolute,
    ← List.append_assoc]

theorem Begun.flatten_separate (hp : p.Begun) (span : Span) :
    (p.separate span).close.flatten = p.close.flatten ++ [.pathSeparator] := by
  rw [OpenPath.flatten_close (separate_current p span), hp.flatten_close span.start]
  cases hc : p.current with
  | none =>
    obtain ⟨hs, ha⟩ := hp hc
    simp [separate, opened, hc, hs, ha, OpenSegment.flatten_close, OpenSegment.settled]
  | some s => simp [separate, opened, hc, OpenSegment.flatten_close, OpenSegment.settled]

/-- Each variable has what follows it, but for the one that awaits a constraint. -/
structure Bound (p : OpenPath) : Prop where
  begun : p.Begun
  segments : ∀ n ∈ p.segments, ∀ after, Binds n.declarations (n.flatten ++ [.pathSeparator]) after
  current : ∀ s, p.current = some s → s.Bound

theorem bound_empty (start : ℕ) : (empty start).Bound :=
  ⟨begun_empty start, fun _ h => (nomatch h), fun _ h => (nomatch h)⟩

theorem Bound.opened (hp : p.Bound) (start : ℕ) : (p.opened start).Bound := by
  unfold OpenPath.opened
  cases hc : p.current with
  | none => exact fun after => .nil
  | some s => exact hp.current s hc

theorem Bound.attach (hp : p.Bound) (hu : n.IsUnit)
    (hn : ∀ after, Binds n.declarations n.flatten after) : (p.attach n).Bound := by
  refine ⟨begun_of_current (attach_current p n), ?_, fun s hs => ?_⟩
  · simpa using hp.segments
  · rw [attach_current] at hs
    cases hs
    exact (hp.opened _).attach hu hn

theorem Bound.attachVariable (hp : p.Bound) (span : Span) (name : Text) :
    (p.attachVariable span name).Bound := by
  refine ⟨begun_of_current (attachVariable_current p span name), ?_, fun s hs => ?_⟩
  · simpa using hp.segments
  · rw [attachVariable_current] at hs
    cases hs
    exact (hp.opened _).attachVariable span name

theorem Bound.separate (hp : p.Bound) (span : Span) : (p.separate span).Bound := by
  refine ⟨begun_of_current (separate_current p span), fun n hn after => ?_, fun s hs => ?_⟩
  · cases hc : p.current with
    | none => exact hp.segments n (by simpa [OpenPath.separate, hc] using hn) after
    | some s =>
      have hn : n = s.close ∨ n ∈ p.segments := by simpa [OpenPath.separate, hc] using hn
      rcases hn with rfl | hn
      · have h := (hp.current s hc).close (show unit? (.pathSeparator :: after) = none from rfl)
        exact h.concat rfl
      · exact hp.segments n hn after
  · rw [separate_current] at hs
    cases hs
    exact fun after => .nil

theorem Bound.close (hp : p.Bound) {after : List Lexeme} (ha : unit? after = none) :
    Binds p.close.declarations p.close.flatten after := by
  cases hc : p.current with
  | none =>
    obtain ⟨hs, habs⟩ := hp.begun hc
    have hnil : Binds [] [] after := .nil
    simpa [OpenPath.close, hc, hs, habs, Node.flatten, Node.flattenWith, Node.declarations,
      Node.declarationsOf] using hnil
  | some s =>
    have hsegments : ∀ n ∈ p.segments.reverse, ∀ after, Binds n.declarations
        (n.flatten ++ [.pathSeparator]) after :=
      fun n hn => hp.segments n (List.mem_reverse.1 hn)
    have h := (Binds.flatMap hsegments _).append ((hp.current s hc).close ha)
    rw [OpenPath.flatten_close hc, OpenPath.declarations_close hc, List.append_assoc]
    cases p.absolute with
    | true => exact h.cons rfl
    | false => exact h

end OpenPath

/-- What was read into an open alternation and the path around it. -/
def OpenAlternation.written (a : OpenAlternation) : List Lexeme :=
  a.outer.close.flatten ++
    .altStart :: a.branches.reverse.flatMap fun n => n.flatten ++ [.altSeparator]

/-- Each variable has what follows it, but for the one that awaits the open alternation
    as its constraint. -/
structure OpenAlternation.Bound (a : OpenAlternation) : Prop where
  outer : a.outer.Bound
  branches : ∀ n ∈ a.branches, ∀ after, unit? after = none → Binds n.declarations n.flatten after

/-- A closed alternation binds whatever follows it. -/
theorem binds_alternation {ns : List Node} {n : Node} (span : Span) (after : List Lexeme)
    (h : ∀ m ∈ ns ++ [n], ∀ after, unit? after = none → Binds m.declarations m.flatten after) :
    Binds (Node.alternation span (ns ++ [n])).declarations
      (Node.alternation span (ns ++ [n])).flatten after := by
  have hns : ∀ m ∈ ns, ∀ after, Binds m.declarations (m.flatten ++ [.altSeparator]) after :=
    fun m hm after => (h m (by simp [hm]) (.altSeparator :: after) rfl).concat rfl
  have hn : Binds n.declarations n.flatten (.altEnd :: after) := h n (by simp) _ rfl
  have hall := ((Binds.flatMap hns _).append hn).concat rfl
  simp only [Node.flatten, Node.declarations, Node.flattenWith_concat, Node.declarationsOf_eq,
    List.flatMap_append, List.flatMap_singleton]
  exact hall.cons rfl

namespace Cursor

variable {c c' : Cursor} {t : Token}

/-- What was read into an unfinished tree. -/
def written (c : Cursor) : List Lexeme :=
  c.enclosing.reverse.flatMap OpenAlternation.written ++ c.path.close.flatten

/-- Each variable of an unfinished tree has what follows it, but for those that await a
    constraint. -/
structure Bound (c : Cursor) : Prop where
  path : c.path.Bound
  enclosing : ∀ a ∈ c.enclosing, a.Bound

theorem bound_initial : initial.Bound :=
  ⟨OpenPath.bound_empty 0, fun _ h => (nomatch h)⟩

theorem Bound.attach {n : Node} (hc : c.Bound) (hu : n.IsUnit)
    (hn : ∀ after, Binds n.declarations n.flatten after) : (c.attach n).Bound :=
  ⟨hc.path.attach hu hn, hc.enclosing⟩

theorem written_attach (hc : c.path.Begun) (n : Node) :
    (c.attach n).written = c.written ++ n.flatten := by
  simp [written, Cursor.attach, hc.flatten_attach]

/-- A token is written at the end. -/
theorem Bound.step (hc : c.Bound) (h : c.step t = .ok c') :
    c'.Bound ∧ c'.written = c.written ++ [t.lexeme] := by
  have hbegun := hc.path.begun
  cases step_eq_ok.1 h with
  | text | wildcard | regexp =>
    exact ⟨hc.attach (by simp [Node.IsUnit, Node.kind]) fun _ => .nil, written_attach hbegun _⟩
  | named =>
    refine ⟨⟨hc.path.attachVariable _ _, hc.enclosing⟩, ?_⟩
    simp [written, hbegun.flatten_attachVariable]
  | pathSeparator =>
    refine ⟨⟨hc.path.separate _, hc.enclosing⟩, ?_⟩
    simp [written, hbegun.flatten_separate]
  | altStart =>
    have hopened : ∀ n ∈ ([] : List Node), ∀ after, unit? after = none →
        Binds n.declarations n.flatten after := List.forall_mem_nil _
    refine ⟨⟨OpenPath.bound_empty _, List.forall_mem_cons.2 ⟨⟨hc.path, hopened⟩, hc.enclosing⟩⟩, ?_⟩
    simp [written, OpenAlternation.written, OpenPath.flatten_empty]
  | altSeparator =>
    obtain ⟨ha, has⟩ := List.forall_mem_cons.1 hc.enclosing
    have hbranches := List.forall_mem_cons.2 ⟨fun _ => hc.path.close, ha.branches⟩
    refine ⟨⟨OpenPath.bound_empty _, List.forall_mem_cons.2 ⟨⟨ha.outer, hbranches⟩, has⟩⟩, ?_⟩
    simp [written, OpenAlternation.written, OpenPath.flatten_empty]
  | @altEnd a _ p span =>
    obtain ⟨ha, has⟩ := List.forall_mem_cons.1 hc.enclosing
    rw [List.reverse_cons]
    have hn : ∀ after, Binds (Node.alternation ⟨a.start, span.stop⟩
        (a.branches.reverse ++ [p.close])).declarations
        (Node.alternation ⟨a.start, span.stop⟩ (a.branches.reverse ++ [p.close])).flatten after := by
      intro after
      refine binds_alternation _ after fun m hm => ?_
      rcases List.mem_append.1 hm with hm | hm
      · exact ha.branches m (List.mem_reverse.1 hm)
      · rw [List.mem_singleton.1 hm]
        exact fun _ => hc.path.close
    refine ⟨⟨ha.outer.attach (by simp [Node.IsUnit, Node.kind]) hn, has⟩, ?_⟩
    simp [written, OpenAlternation.written, ha.outer.begun.flatten_attach, Node.flatten,
      Node.flattenWith_concat]

end Cursor

/-- The tree of a pattern is written as the tokens of the pattern. -/
theorem flatten_of_parse {pattern : Text} {root : Node} (h : parse pattern = .ok root) :
    root.flatten = (tokens pattern).1.map Token.lexeme := by
  obtain ⟨p, ⟨-, hw⟩, rfl⟩ := parse_induction
    (P := fun ts c => c.Bound ∧ c.written = ts.map Token.lexeme) h ⟨Cursor.bound_initial, rfl⟩
    fun us c c' t _ ⟨hc, hw⟩ hstep => by
      obtain ⟨hc', hw'⟩ := hc.step hstep
      rw [hw', hw, List.map_append, List.map_singleton]
      exact ⟨hc', rfl⟩
  simpa [Cursor.written] using hw

/-- **Trees and tokens.** The tree of a pattern is written as the tokens of the pattern.
    Its variables are, in order, those among the tokens. Each has as its constraint the
    text, the wildcard, the raw regular expression or the whole alternation that follows
    it, and none if nothing of the kind does. -/
theorem parse_flatten {pattern : Text} {root : Node} (h : parse pattern = .ok root) :
    root.flatten = (tokens pattern).1.map Token.lexeme ∧
      List.Forall₂ ConstrainedBy root.declarations
        (variableTails ((tokens pattern).1.map Token.lexeme)) := by
  have hstep : ∀ us (c c' : Cursor), ∀ t ∈ (tokens pattern).1,
      c.Bound ∧ c.written = us.map Token.lexeme → c.step t = .ok c' →
        c'.Bound ∧ c'.written = (us ++ [t]).map Token.lexeme := by
    rintro us c c' t - ⟨hc, hw⟩ hstep
    obtain ⟨hc', hw'⟩ := hc.step hstep
    refine ⟨hc', ?_⟩
    rw [hw', hw, List.map_append, List.map_singleton]
  obtain ⟨p, ⟨hb, hw⟩, rfl⟩ := parse_induction
    (P := fun ts c => c.Bound ∧ c.written = ts.map Token.lexeme) h ⟨Cursor.bound_initial, rfl⟩ hstep
  have hflat : p.close.flatten = (tokens pattern).1.map Token.lexeme := by
    simpa [Cursor.written] using hw
  have hbinds : Binds p.close.declarations p.close.flatten [] := hb.path.close rfl
  rw [hflat] at hbinds
  exact ⟨hflat, by simpa [Binds] using hbinds⟩

/-- A variable with an alternation, one in front of a `,` and one with a wildcard. -/
theorem parse_flatten_constraints :
    ∃ root, parse "/:a{x:b,y}:c*".toList = .ok root ∧
      root.flatten = [.pathSeparator, .variable ['a'], .altStart, .text ['x'], .variable ['b'],
        .altSeparator, .text ['y'], .altEnd, .variable ['c'], .wildcard false] ∧
      root.declarations.map (fun v => (v.1, v.2.map Node.flatten)) =
        [(['a'], some [.altStart, .text ['x'], .variable ['b'], .altSeparator, .text ['y'],
            .altEnd]),
          (['b'], none), (['c'], some [.wildcard false])] := by
  have hok : (parse "/:a{x:b,y}:c*".toList).isOk := by decide
  obtain ⟨root, hp⟩ := exists_of_isOk hok
  obtain ⟨hflat, hbinds⟩ := parse_flatten hp
  have htokens : (tokens "/:a{x:b,y}:c*".toList).1.map Token.lexeme =
      [.pathSeparator, .variable ['a'], .altStart, .text ['x'], .variable ['b'],
        .altSeparator, .text ['y'], .altEnd, .variable ['c'], .wildcard false] := by decide
  rw [htokens] at hflat hbinds
  refine ⟨root, hp, hflat, ?_⟩
  exact map_flatten_of_constrained hbinds

end PathRouting.Pattern
