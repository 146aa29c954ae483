/-
  What is written for a tree is its source.

  * `Source.append_assoc`, `Source.nil_append`: sources are put together like texts.
  * `Writes`: what a writer adds behind whatever has been written. `Node.writes_write`: a tree
    adds its source, with its slots behind the groups in front.
  * `Node.toSource_eq`: so the source of a tree can be written from the start to the end.
    `compile_eq`: what compiling a tree comes to.
-/
import PathRouting.Pattern.Matcher
import Mathlib.Data.Nat.Notation
import Mathlib.Tactic.SplitIfs

namespace PathRouting.Pattern

/-! ## Putting sources together -/

namespace Source

variable {a b : Source}

theorem eq_of_parts (ht : a.text = b.text) (hs : a.slots = b.slots) (hg : a.groups = b.groups) :
    a = b := by
  cases a
  cases b
  simp_all

theorem text_append (a b : Source) : (a ++ b).text = a.text ++ b.text := rfl

theorem groups_append (a b : Source) : (a ++ b).groups = a.groups + b.groups := rfl

theorem slots_append (a b : Source) : (a ++ b).slots = a.slots ++ shift a.groups b.slots := rfl

theorem shift_zero (slots : List Slot) : shift 0 slots = slots := by
  simp [shift]

theorem shift_append (n : ℕ) (ss rs : List Slot) :
    shift n (ss ++ rs) = shift n ss ++ shift n rs := List.map_append

theorem shift_shift (m n : ℕ) (ss : List Slot) : shift m (shift n ss) = shift (m + n) ss := by
  simp [shift, Nat.add_assoc]

@[simp] theorem nil_append (a : Source) : ofText [] ++ a = a := by
  refine eq_of_parts rfl ?_ (Nat.zero_add _)
  simp [slots_append, ofText, shift]

theorem append_assoc (a b c : Source) : a ++ b ++ c = a ++ (b ++ c) := by
  refine eq_of_parts (List.append_assoc ..) ?_ (Nat.add_assoc ..)
  rw [slots_append, slots_append, slots_append, slots_append, shift_append, shift_shift,
    groups_append, List.append_assoc]

end Source

/-! ## Writers -/

/-- A writer adds a source behind whatever has been written. -/
def Writes (write : Source → Source) (a : Source) : Prop :=
  ∀ s, write s = s ++ a

section
variable {f g : Source → Source} {a b : Source}

theorem Writes.comp (hf : Writes f a) (hg : Writes g b) : Writes (fun s => g (f s)) (a ++ b) := by
  intro s
  show g (f s) = _
  rw [hg, hf, Source.append_assoc]

theorem writes_id : Writes id (.ofText []) :=
  fun _ => Source.eq_of_parts (List.append_nil _).symm (List.append_nil _).symm rfl

theorem writes_put (text : Text) : Writes (Source.put text) (.ofText text) :=
  fun _ => Source.eq_of_parts rfl (List.append_nil _).symm rfl

theorem Writes.group (h : Writes f a) :
    Writes (fun s => (f (s.put "(?:".toList)).put ")".toList) a.group :=
  ((writes_put _).comp h).comp (writes_put _)

theorem writes_putSubPattern (source : Text) :
    Writes (Source.putSubPattern source) (.subPattern source) := by
  intro s
  unfold Source.putSubPattern Source.subPattern
  split_ifs
  · exact (writes_put source).group s
  · exact writes_put source s

/-- A variable takes the next number. -/
theorem Writes.capture (h : Writes f a) (name : Text) :
    Writes (fun s => (f ((s.declare name).put "(".toList)).put ")".toList) (a.capture name) := by
  have hopen : Writes (fun s => (s.declare name).put "(".toList) ⟨"(".toList, [⟨name, 1⟩], 1⟩ :=
    fun _ => rfl
  exact (hopen.comp h).comp (writes_put _)

/-- A raw regular expression takes the numbers of the groups that are counted in it. -/
theorem writes_regexp (body : Text) :
    Writes (fun s => (((s.take (groupCount body)).put "(?:".toList).put body).put ")".toList)
      (Source.group ⟨body, [], groupCount body⟩) := by
  intro s
  refine Source.eq_of_parts ?_ ?_ ?_
  · simp [Source.put, Source.take, Source.group, Source.text_append, Source.ofText]
  · simp [Source.put, Source.take, Source.group, Source.slots_append, Source.ofText, Source.shift]
  · simp [Source.put, Source.take, Source.group, Source.groups_append, Source.ofText]

end

namespace Node

mutual

/-- **Writing.** A tree adds its source behind whatever has been written. -/
theorem writes_write (o : Options) : ∀ n : Node, Writes (n.write o) (n.source o)
  | .path _ absolute segments => by
    have hall := writes_writeAll o (writes_putSubPattern o.pathSeparator) segments
    cases absolute with
    | true => exact (writes_putSubPattern o.pathSeparator).comp hall
    | false => exact writes_id.comp hall
  | .segment _ items => writes_writeAll o writes_id items
  | .alternation _ branches => (writes_writeAll o (writes_put _) branches).group
  | .variable _ name (some c) => (writes_write o c).capture name
  | .variable _ name none => (writes_put o.unconstrainedVariable).capture name
  | .wildcard _ true => writes_putSubPattern o.greedyWildcard
  | .wildcard _ false => writes_putSubPattern o.wildcard
  | .regexp _ body => writes_regexp body
  | .text _ value => writes_put _

theorem writes_writeAll (o : Options) {between : Source → Source} {separator : Source}
    (h : Writes between separator) :
    ∀ ns : List Node, Writes (writeAll o between ns) (.join separator (sources o ns))
  | [] => writes_id
  | [n] => writes_write o n
  | n :: m :: ns => ((writes_write o n).comp h).comp (writes_writeAll o h (m :: ns))

end

theorem toSource_eq (n : Node) (o : Options) : n.toSource o = n.source o := by
  rw [toSource, writes_write, Source.nil_append]

end Node

/-- What compiling a tree comes to. -/
theorem compile_eq (root : Node) (o : Options) : compile root o = o.check.bind fun _ =>
    match Regex.compile (!o.caseSensitive) (Matcher.anchored (root.source o)) with
    | .error _ => .error (.invalidRegex (Matcher.anchored (root.source o)))
    | .ok r =>
      if r.groupCount = (root.source o).groups then .ok ⟨r, (root.source o).slots⟩
      else .error (.groupCountMismatch (root.source o).groups r.groupCount) := by
  rw [compile, Node.toSource_eq]
  rfl

end PathRouting.Pattern
