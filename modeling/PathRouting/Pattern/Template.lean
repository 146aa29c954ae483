/-
  Building paths from patterns.

  A pattern is turned into a template: literal text, parameters, choices and
  sequences of these. A parameter without value is replaced by what its
  constraint builds, unless that is a literal or cannot be built at all. Raw
  regular expressions cannot be built; they may stand in constraints only.

  * `Template.build?` fills in a template, `Template.write` does so in place.
  * `Template.sequence` and `Template.select?` put templates together in shortest form;
    `Template.sequenceByStack` does so for sequences by means of a stack.
  * `Node.toTemplate` gives the template of a tree and its parameters.
  * `PathBuilder` keeps both.
-/
import PathRouting.Bindings
import PathRouting.Pattern.Error
import PathRouting.Pattern.Node

namespace PathRouting.Pattern

/-! ## Templates -/

/-- What is built from parameters. -/
inductive Template where
  /-- text that is always the same -/
  | literal (value : Text)
  /-- one after the other -/
  | concat (parts : List Template)
  /-- the first that can be built -/
  | choice (branches : List Template)
  /-- the value of a parameter, or what the fallback builds -/
  | parameter (name : Text) (fallback : Option Template)
deriving Repr

namespace Template

mutual

/-- The text that a template builds, if it can be built. -/
def build? (b : Bindings) : Template → Option Text
  | .literal value => some value
  | .concat parts => buildAll? b parts
  | .choice branches => buildFirst? b branches
  | .parameter name none => b.get? name
  | .parameter name (some fallback) =>
    match b.get? name with
    | some value => some value
    | none => build? b fallback

/-- The texts of several templates in order, if each can be built. -/
def buildAll? (b : Bindings) : List Template → Option Text
  | [] => some []
  | t :: ts =>
    match build? b t with
    | some first => (buildAll? b ts).map (first ++ ·)
    | none => none

/-- The text of the first template that can be built. -/
def buildFirst? (b : Bindings) : List Template → Option Text
  | [] => none
  | t :: ts =>
    match build? b t with
    | some text => some text
    | none => buildFirst? b ts

end

mutual

/-- Fills in a template in place, behind what is written already, and tells whether it
    could be built. If not, a part of it may stand there. -/
def write (b : Bindings) (out : Text) : Template → Bool × Text
  | .literal value => (true, out ++ value)
  | .concat parts => writeAll b out parts
  | .choice branches => writeFirst b out branches
  | .parameter name none =>
    match b.get? name with
    | some value => (true, out ++ value)
    | none => (false, out)
  | .parameter name (some fallback) =>
    match b.get? name with
    | some value => (true, out ++ value)
    | none => write b out fallback

/-- Fills in templates in order, up to the first that cannot be built. -/
def writeAll (b : Bindings) (out : Text) : List Template → Bool × Text
  | [] => (true, out)
  | t :: ts =>
    match write b out t with
    | (true, longer) => writeAll b longer ts
    | (false, longer) => (false, longer)

/-- Fills in the first template that can be built. What one that cannot be built has
    written is taken back. -/
def writeFirst (b : Bindings) (out : Text) : List Template → Bool × Text
  | [] => (false, out)
  | t :: ts =>
    match write b out t with
    | (true, longer) => (true, longer)
    | (false, longer) => writeFirst b (longer.take out.length) ts

end

/-- Whether a template is literal text. -/
def isLiteral : Template → Bool
  | .literal _ => true
  | _ => false

/-- The parts of a sequence, or a template as the only part. -/
def parts : Template → List Template
  | .concat ts => ts
  | t => [t]

/-- The branches of a choice, or a template as the only branch. -/
def branches : Template → List Template
  | .choice ts => ts
  | t => [t]

/-- Parts with neighbouring literals joined. -/
def joinLiterals : List Template → List Template
  | [] => []
  | .literal value :: rest =>
    match joinLiterals rest with
    | .literal next :: more => .literal (value ++ next) :: more
    | more => .literal value :: more
  | t :: rest => t :: joinLiterals rest

/-- A sequence of templates in its shortest form. -/
def sequence (ts : List Template) : Template :=
  match joinLiterals (ts.flatMap parts) with
  | [] => .literal []
  | [t] => t
  | joined => .concat joined

/-- One more part behind parts that are joined. -/
def joinTo (joined : List Template) : Template → List Template
  | .literal value =>
    match joined.getLast? with
    | some (.literal last) => joined.dropLast ++ [.literal (last ++ value)]
    | _ => joined ++ [.literal value]
  | t => joined ++ [t]

theorem sizeOf_append (ts us : List Template) : sizeOf (ts ++ us) < sizeOf ts + sizeOf us := by
  induction ts with
  | nil => simp
  | cons t ts ih =>
    rw [List.cons_append, List.cons.sizeOf_spec, List.cons.sizeOf_spec]
    omega

/-- Takes the templates of a stack from its top and joins them to what is joined already. In
    place of a sequence its parts are put on the stack. -/
def unstack (joined : List Template) : List Template → List Template
  | [] => joined
  | .concat ts :: stack => unstack joined (ts ++ stack)
  | t :: stack => unstack (joinTo joined t) stack
termination_by stack => sizeOf stack
decreasing_by
  · have := sizeOf_append ts stack
    rw [List.cons.sizeOf_spec, concat.sizeOf_spec]
    omega
  · rw [List.cons.sizeOf_spec]
    omega

/-- A sequence of templates in its shortest form, by means of a stack. -/
def sequenceByStack (ts : List Template) : Template :=
  match unstack [] ts with
  | [] => .literal []
  | [t] => t
  | joined => .concat joined

/-- Branches up to the first literal: those behind it are never built. -/
def untilLiteral : List Template → List Template
  | [] => []
  | t :: rest => if t.isLiteral then [t] else t :: untilLiteral rest

/-- A choice of templates in its shortest form, if there is any branch. -/
def select? (ts : List Template) : Option Template :=
  match untilLiteral (ts.flatMap branches) with
  | [] => none
  | [t] => some t
  | some_ => some (.choice some_)

end Template

/-! ## Parameters -/

/-- The values that a parameter may have. -/
inductive ValueSet where
  | literals (values : List Text)
  | any
deriving DecidableEq, Repr

/-- Adds the values of a list that are not there yet. -/
def addNew (values : List Text) : List Text → List Text
  | [] => values
  | v :: rest => addNew (if values.contains v then values else values ++ [v]) rest

/-- The values that are allowed in one of two places. -/
def ValueSet.merge : ValueSet → ValueSet → ValueSet
  | .literals values, .literals more => .literals (addNew values more)
  | _, _ => .any

/-- A parameter: whether a path can be built in which it has no value, and the
    values that it may have. -/
structure Parameter where
  name : Text
  optional : Bool
  values : ValueSet
deriving DecidableEq, Repr

/-- The parameters with one more occurrence of a name. -/
def declare (name : Text) (values : ValueSet) : List Parameter → List Parameter
  | [] => [⟨name, true, values⟩]
  | p :: rest =>
    if p.name = name then { p with values := p.values.merge values } :: rest
    else p :: declare name values rest

/-- The parameters with one of them marked as required. -/
def require (name : Text) (ps : List Parameter) : List Parameter :=
  ps.map fun p => if p.name = name then { p with optional := false } else p

/-! ## Literal constraints -/

namespace Node

mutual

/-- The text of a tree that is made of literal text only. -/
def literalText? : Node → Option Text
  | .text _ value => some value
  | .segment _ items => literalTexts? items
  | .path _ absolute segments =>
    (literalSegments? segments).map fun t => if absolute then '/' :: t else t
  | .alternation _ [branch] => branch.literalText?
  | _ => none

/-- The texts of several trees in order. -/
def literalTexts? : List Node → Option Text
  | [] => some []
  | n :: ns =>
    match n.literalText?, literalTexts? ns with
    | some t, some rest => some (t ++ rest)
    | _, _ => none

/-- The texts of several trees with separators between them. -/
def literalSegments? : List Node → Option Text
  | [] => some []
  | [n] => n.literalText?
  | n :: ns =>
    match n.literalText?, literalSegments? ns with
    | some t, some rest => some (t ++ '/' :: rest)
    | _, _ => none

end

mutual

/-- The texts that a tree can stand for, if there are no others: those of its
    branches if it is an alternation. -/
def literalValues? : Node → Option (List Text)
  | .alternation _ branches => branchValues? [] branches
  | n => n.literalText?.map ([·])

/-- The texts of several branches behind those already known. -/
def branchValues? (known : List Text) : List Node → Option (List Text)
  | [] => some known
  | n :: ns =>
    match n.literalValues? with
    | some values => branchValues? (addNew known values) ns
    | none => none

end

/-! ## From trees to templates -/

/-- A template, if there is one, and the parameters met so far. -/
abbrev Lowered (α : Type) := Except PatternError (Option α × List Parameter)

mutual

/-- The template of a tree; none if it holds a raw regular expression that
    cannot be left out. `inVariable` says that it stands in a constraint, and
    `optional` that it stands in one or in one of several branches. -/
def lower (inVariable optional : Bool) : Node → List Parameter → Lowered Template
  | .path _ absolute segments, ps =>
    (lowerSegments inVariable optional segments ps).map fun (parts, ps) =>
      (parts.map fun ts =>
        Template.sequence (if absolute then .literal ['/'] :: ts else ts), ps)
  | .segment _ items, ps =>
    (lowerItems inVariable optional items ps).map fun (parts, ps) =>
      (parts.map Template.sequence, ps)
  | .alternation _ branches, ps =>
    (lowerBranches inVariable (optional || 1 < branches.length) branches ps).map
      fun (ts, ps) => (Template.select? ts, ps)
  | .variable _ name none, ps =>
    let ps := declare name .any ps
    .ok (some (.parameter name none), if optional then ps else require name ps)
  | .variable _ name (some c), ps =>
    let values := match c.literalValues? with
      | some values => .literals values
      | none => .any
    (lower true true c (declare name values ps)).map fun (t, ps) =>
      let fallback := t.filter (!·.isLiteral)
      (some (.parameter name fallback),
        if optional || fallback.isSome then ps else require name ps)
  | .wildcard .., ps => .ok (some (.literal []), ps)
  | .regexp span _, ps =>
    if inVariable then .ok (none, ps) else .error (.regexpOutsideVariable span.start)
  | .text _ value, ps => .ok (some (.literal value), ps)

/-- The templates of items in order; nothing is read behind one that has none. -/
def lowerItems (inVariable optional : Bool) :
    List Node → List Parameter → Lowered (List Template)
  | [], ps => .ok (some [], ps)
  | n :: ns, ps =>
    (lower inVariable optional n ps).bind fun (t, ps) =>
      match t with
      | none => .ok (none, ps)
      | some t => (lowerItems inVariable optional ns ps).map fun (ts, ps) =>
        (ts.map (t :: ·), ps)

/-- The templates of segments with separators between them. -/
def lowerSegments (inVariable optional : Bool) :
    List Node → List Parameter → Lowered (List Template)
  | [], ps => .ok (some [], ps)
  | [n], ps => (lower inVariable optional n ps).map fun (t, ps) => (t.map ([·]), ps)
  | n :: ns, ps =>
    (lower inVariable optional n ps).bind fun (t, ps) =>
      match t with
      | none => .ok (none, ps)
      | some t => (lowerSegments inVariable optional ns ps).map fun (ts, ps) =>
        (ts.map fun ts => t :: .literal ['/'] :: ts, ps)

/-- The templates of those branches that have one. -/
def lowerBranches (inVariable optional : Bool) :
    List Node → List Parameter → Except PatternError (List Template × List Parameter)
  | [], ps => .ok ([], ps)
  | n :: ns, ps =>
    (lower inVariable optional n ps).bind fun (t, ps) =>
      (lowerBranches inVariable optional ns ps).map fun (ts, ps) => (t.toList ++ ts, ps)

end

end Node

/-! ## Builders -/

/-- A template, if there is one, and its parameters in the order in which they
    first stand in the pattern. -/
structure PathBuilder where
  root : Option Template
  parameters : List Parameter
deriving Repr

namespace PathBuilder

/-- The builder of a tree. -/
def ofNode (root : Node) : Except PatternError PathBuilder :=
  (root.lower false false []).map fun (t, ps) => ⟨t, ps⟩

/-- Builds a path, if the parameters allow it. -/
def build? (p : PathBuilder) (b : Bindings) : Option Text :=
  p.root.bind fun t => t.build? b

/-- Writes a path in place, if the parameters allow it. -/
def write? (p : PathBuilder) (b : Bindings) : Option Text :=
  p.root.bind fun t =>
    match t.write b [] with
    | (true, path) => some path
    | (false, _) => none

end PathBuilder

end PathRouting.Pattern
