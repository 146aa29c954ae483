/-
  Trees and their outlines.

  * `Node.label_inj`: the line of a node and the nodes below it determine the node.
  * `Node.told`: a tree is determined by its lines, each with the depth at which it stands.
    Below a node is what stands deeper, up to the first line that does not.
  * `lines_inj`: lines that hold no line break are told apart by the line breaks, and begin
    behind the blanks that tell their depth.
  * `isNameChar_of_parse`: a name in a pattern is made of letters, digits, `$` and `_`, so that
    it stands on one line.
  * `outline_inj`: so the outlines of two trees with such names are the same only if the
    trees are.
  * `Arena.Stores.outline_eq`: the outline may also be read off the cells of a tree.
  * `outline_eq_iff`: two patterns have the same outline only if they have the same tree.
-/
import PathRouting.Proofs.Pattern.Covering
import PathRouting.Proofs.Pattern.Links
import PathRouting.Proofs.Text.Quoted

namespace PathRouting.Pattern

/-! ## Names -/

namespace Node

section
variable {x : Text}

mutual

/-- The variables of a tree stand among its lexemes. -/
theorem variable_mem_flatten : ∀ n : Node, x ∈ n.variableNames → Lexeme.variable x ∈ n.flatten
  | .path _ _ ns, h => List.mem_append_right _ (variable_mem_flattenWith _ ns h)
  | .segment _ ns, h => variable_mem_flattenAll ns h
  | .alternation _ ns, h =>
    List.mem_cons_of_mem _ (List.mem_append_left _ (variable_mem_flattenWith _ ns h))
  | .variable _ name none, h => by
    rw [List.mem_singleton.1 h]
    exact List.mem_singleton_self _
  | .variable _ name (some c), h => by
    rcases List.mem_cons.1 h with rfl | h
    · exact List.mem_cons_self
    · exact List.mem_cons_of_mem _ (variable_mem_flatten c h)

theorem variable_mem_flattenAll : ∀ ns : List Node, x ∈ namesOf ns →
    Lexeme.variable x ∈ flattenAll ns
  | n :: ns, h => by
    rcases List.mem_append.1 h with h | h
    · exact List.mem_append_left _ (variable_mem_flatten n h)
    · exact List.mem_append_right _ (variable_mem_flattenAll ns h)

theorem variable_mem_flattenWith (separator : Lexeme) : ∀ ns : List Node, x ∈ namesOf ns →
    Lexeme.variable x ∈ flattenWith separator ns
  | [n], h => variable_mem_flatten n (by rwa [namesOf, namesOf, List.append_nil] at h)
  | n :: m :: ns, h => by
    rcases List.mem_append.1 h with h | h
    · exact List.mem_append_left _ (variable_mem_flatten n h)
    · exact List.mem_append_right _
        (List.mem_cons_of_mem _ (variable_mem_flattenWith separator (m :: ns) h))

end

theorem mem_namesOf {ns : List Node} : x ∈ namesOf ns ↔ ∃ n ∈ ns, x ∈ n.variableNames := by
  induction ns with
  | nil => simp [namesOf]
  | cons n ns ih => simp [namesOf, ih]

theorem mem_variableNames_of_child {n c : Node} (hc : c ∈ n.children)
    (hx : x ∈ c.variableNames) : x ∈ n.variableNames := by
  cases n with
  | path | segment | alternation => exact mem_namesOf.2 ⟨c, hc, hx⟩
  | wildcard | regexp | text => cases hc
  | «variable» span name constraint =>
    cases constraint with
    | none => cases hc
    | some d =>
      rw [List.mem_singleton.1 hc] at hx
      exact List.mem_cons_of_mem name hx

end

end Node

/-- A token that is a variable has a name of name characters. -/
theorem Lexeme.Written.isNameChar {x a : Text} (h : (Lexeme.variable x).Written a) :
    ∀ c ∈ x, isNameChar c := by
  cases h with
  | «variable» hc hname =>
    refine List.forall_mem_cons.2 ⟨?_, hname⟩
    rw [Pattern.isNameChar, hc, Bool.true_or]
  | single h => cases h

theorem isNameChar_of_parse {pattern : Text} {root : Node} (h : parse pattern = .ok root) :
    ∀ x ∈ root.variableNames, ∀ c ∈ x, isNameChar c := by
  intro x hx
  have hlexeme := root.variable_mem_flatten hx
  rw [flatten_of_parse h] at hlexeme
  obtain ⟨t, ht, htx⟩ := List.mem_map.1 hlexeme
  obtain ⟨late, -, hcut, -⟩ := cut_read pattern
  obtain ⟨-, a, -, -, -, ha, -⟩ := hcut.source (List.mem_append_left late ht)
  rw [htx] at ha
  exact ha.isNameChar

/-! ## The line of a node -/

/-- A span tells where its text ends. -/
theorem Span.render_append_inj {s s' : Span} {x y : Text} (hx : ∀ c ∈ x.head?, c.isDigit = false)
    (hy : ∀ c ∈ y.head?, c.isDigit = false) (h : s.render ++ x = s'.render ++ y) :
    s = s' ∧ x = y := by
  have hdots : ∀ z : Text, ∀ c ∈ ("..".toList ++ z).head?, c.isDigit = false := by
    rintro z c ⟨⟩
    rfl
  rw [render, render, List.append_assoc, List.append_assoc, List.append_assoc,
    List.append_assoc] at h
  obtain ⟨hstart, hrest⟩ := Text.decimal_append_inj (hdots _) (hdots _) h
  obtain ⟨hstop, hxy⟩ := Text.decimal_append_inj hx hy (List.append_cancel_left hrest)
  exact ⟨congrArg₂ Span.mk hstart hstop, hxy⟩

theorem Span.newline_not_mem_render (s : Span) : '\n' ∉ s.render := by
  simp [render, Text.newline_not_mem_decimal]

namespace Node

/-- The word for a kind of nodes. -/
def Kind.word : Kind → Text
  | .path => "Path".toList
  | .segment => "Segment".toList
  | .alternation => "Alt".toList
  | .variable => "Variable".toList
  | .wildcard => "Wildcard".toList
  | .regexp => "RegExp".toList
  | .text => "Text".toList

theorem Kind.head?_word_append (k : Kind) (t : Text) : (k.word ++ t).head? = k.word.head? := by
  cases k <;> rfl

/-- What the line of a node says behind its span. -/
def remark : Node → Text
  | .path _ absolute _ => if absolute then " absolute".toList else []
  | .segment .. | .alternation .. => []
  | .variable _ name _ => ' ' :: name
  | .wildcard _ greedy => if greedy then " greedy".toList else []
  | .regexp _ body =>
    ' ' :: Text.quoted body ++ " groups=".toList ++ Text.decimal (groupCount body)
  | .text _ value => ' ' :: Text.quoted value

theorem label_eq : ∀ n : Node, n.label = n.kind.word ++ ' ' :: (n.span.render ++ n.remark)
  | .path .. | .variable .. | .wildcard .. | .text .. => List.append_assoc _ _ _
  | .segment s _ => congrArg ("Segment ".toList ++ ·) (List.append_nil s.render).symm
  | .alternation s _ => congrArg ("Alt ".toList ++ ·) (List.append_nil s.render).symm
  | .regexp s body => by
    have hassoc : ∀ a b c d e : Text, a ++ b ++ c ++ d ++ e = a ++ (b ++ (c ++ d ++ e)) := by simp
    exact hassoc "RegExp ".toList s.render (' ' :: Text.quoted body) _ _

section
variable {n m : Node}

/-- The words for the kinds begin with different letters. -/
theorem kind_eq_of_label_eq (h : n.label = m.label) : n.kind = m.kind := by
  have hletter : ∀ k k' : Kind, k.word.head? = k'.word.head? → k = k' := by
    intro k k'
    cases k <;> cases k' <;> decide
  have hhead := congrArg List.head? h
  rw [label_eq, label_eq, Kind.head?_word_append, Kind.head?_word_append] at hhead
  exact hletter _ _ hhead

theorem head?_remark (n : Node) : ∀ c ∈ n.remark.head?, c.isDigit = false := by
  have hnil : ∀ c ∈ ([] : Text).head?, c.isDigit = false := fun _ hc => nomatch hc
  have hblank : ∀ t : Text, ∀ c ∈ (' ' :: t).head?, c.isDigit = false := by
    rintro t c ⟨⟩
    rfl
  cases n with
  | path _ flag | wildcard _ flag =>
    cases flag with
    | true => exact hblank _
    | false => exact hnil
  | segment | alternation => exact hnil
  | «variable» | regexp | text => exact hblank _

/-- A node is what its kind, its span, the remark on it and the nodes below it say. -/
theorem eq_of_remark_eq (hkind : n.kind = m.kind) (hspan : n.span = m.span)
    (hremark : n.remark = m.remark) (hchildren : n.children = m.children) : n = m := by
  have hflag : ∀ (word : Text) (a b : Bool), word ≠ [] →
      (if a then word else []) = (if b then word else []) → a = b := by
    intro word a b hword h
    cases a <;> cases b <;> simp_all
  cases n <;> cases m <;> cases hkind
  case path.path span a ns span' a' ms =>
    rw [show span = span' from hspan, show ns = ms from hchildren, hflag _ a a' (by decide) hremark]
  case segment.segment span ns span' ms =>
    rw [show span = span' from hspan, show ns = ms from hchildren]
  case alternation.alternation span ns span' ms =>
    rw [show span = span' from hspan, show ns = ms from hchildren]
  case variable.variable span name c span' name' c' =>
    have hc : c = c' := by
      cases c <;> cases c' <;> simp_all [children]
    rw [show span = span' from hspan, hc, (List.cons.inj hremark).2]
  case wildcard.wildcard span a span' a' =>
    rw [show span = span' from hspan, hflag _ a a' (by decide) hremark]
  case regexp.regexp span body span' body' =>
    have hquoted : ∀ t, ' ' :: Text.quoted t ++ " groups=".toList ++ Text.decimal (groupCount t) =
        ' ' :: (Text.quoted t ++ (" groups=".toList ++ Text.decimal (groupCount t))) := by simp
    have hbody := (hquoted body).symm.trans (Eq.trans hremark (hquoted body'))
    rw [show span = span' from hspan, (Text.quoted_append_inj (List.cons.inj hbody).2).1]
  case text.text span value span' value' =>
    have hvalue := congrArg (· ++ []) (List.cons.inj hremark).2
    rw [show span = span' from hspan, (Text.quoted_append_inj hvalue).1]

/-- The line of a node and the nodes below it determine the node. -/
theorem label_inj (h : n.label = m.label) (hchildren : n.children = m.children) : n = m := by
  have hkind := kind_eq_of_label_eq h
  rw [label_eq, label_eq, hkind] at h
  obtain ⟨hspan, hremark⟩ := Span.render_append_inj n.head?_remark m.head?_remark
    (List.cons.inj (List.append_cancel_left h)).2
  exact eq_of_remark_eq hkind hspan hremark hchildren

end

/-! ## The lines of a tree -/

section
variable {P : Node → Prop}

mutual

/-- What holds of a node if it holds of those below holds of every tree. -/
theorem of_children (h : ∀ n, (∀ c ∈ n.children, P c) → P n) : ∀ n : Node, P n
  | .path _ _ ns | .segment _ ns | .alternation _ ns => h _ (forall_of_children h ns)
  | .variable _ _ (some c) => h _ (List.forall_mem_singleton.2 (of_children h c))
  | .variable _ _ none | .wildcard .. | .regexp .. | .text .. => h _ (List.forall_mem_nil _)

theorem forall_of_children (h : ∀ n, (∀ c ∈ n.children, P c) → P n) : ∀ ns : List Node,
    ∀ n ∈ ns, P n
  | [] => List.forall_mem_nil _
  | n :: ns => List.forall_mem_cons.2 ⟨of_children h n, forall_of_children h ns⟩

end

end

/-- What is printed of a node that is met on a walk: how deep it stands, and its label. -/
def heading (v : Visit) : ℕ × Text :=
  (v.depth, v.node.label)

/-- What is printed of a tree that stands at some depth. -/
def headings (depth : ℕ) (n : Node) : List (ℕ × Text) :=
  (n.walkFrom (fun _ => true) depth none).map heading

theorem headings_cons (depth : ℕ) (n : Node) : headings depth n =
    (depth, n.label) :: n.children.flatMap (headings (depth + 1)) := by
  have hall : ∀ (above : Node) (ns : List Node),
      (walkAll (fun _ => true) (depth + 1) above ns).map heading =
        ns.flatMap (headings (depth + 1)) := by
    intro above ns
    induction ns with
    | nil => rfl
    | cons c ns ih =>
      rw [walkAll, List.map_append, ih, List.flatMap_cons, headings, walkFrom_all, walkFrom_all]
      rfl
  rw [headings, walkFrom_all, List.map_cons, hall]
  rfl

/-- Whether the next line, if there is one, stands at a depth or less deep. -/
def Resumes (depth : ℕ) (rest : List (ℕ × Text)) : Prop :=
  ∀ p ∈ rest.head?, p.1 ≤ depth

theorem resumes_headings {depth : ℕ} (ns : List Node) {rest : List (ℕ × Text)}
    (h : Resumes depth rest) : Resumes (depth + 1) (ns.flatMap (headings (depth + 1)) ++ rest) := by
  cases ns with
  | nil => exact fun p hp => Nat.le_succ_of_le (h p hp)
  | cons n ns =>
    rw [List.flatMap_cons, headings_cons]
    rintro p ⟨⟩
    exact Nat.le_refl _

/-- The lines of a tree say which tree it is, and where it ends: in front of the next line
    that stands no deeper than the first. -/
def Told (n : Node) : Prop :=
  ∀ (m : Node) (depth : ℕ) (x y : List (ℕ × Text)), Resumes depth x → Resumes depth y →
    headings depth n ++ x = headings depth m ++ y → n = m ∧ x = y

/-- Trees that stand one behind the other below a node. Behind the last of them the next line
    stands less deep. -/
theorem told_below {depth : ℕ} {ns : List Node} {x y : List (ℕ × Text)} (hns : ∀ n ∈ ns, n.Told)
    (hx : Resumes depth x) (hy : Resumes depth y) : ∀ ms : List Node,
      ns.flatMap (headings (depth + 1)) ++ x = ms.flatMap (headings (depth + 1)) ++ y →
        ns = ms ∧ x = y := by
  have hdeeper : ∀ (n : Node) (ns : List Node) {x : List (ℕ × Text)} (y : List (ℕ × Text)),
      Resumes depth x → x ≠ (n :: ns).flatMap (headings (depth + 1)) ++ y := by
    rintro n ns _ y hx rfl
    rw [List.flatMap_cons, headings_cons] at hx
    exact absurd (hx _ rfl) (by simp)
  induction ns with
  | nil =>
    intro ms h
    cases ms with
    | nil => exact ⟨rfl, h⟩
    | cons m ms => exact absurd h (hdeeper m ms y hx)
  | cons n ns ih =>
    intro ms h
    cases ms with
    | nil => exact absurd h.symm (hdeeper n ns x hy)
    | cons m ms =>
      obtain ⟨hn, hns⟩ := List.forall_mem_cons.1 hns
      rw [List.flatMap_cons, List.flatMap_cons, List.append_assoc, List.append_assoc] at h
      obtain ⟨rfl, hrest⟩ := hn m _ _ _ (resumes_headings ns hx) (resumes_headings ms hy) h
      obtain ⟨rfl, hxy⟩ := ih hns ms hrest
      exact ⟨rfl, hxy⟩

/-- **Lines and trees.** A tree tells what its lines are, and its lines tell which tree it
    is. -/
theorem told : ∀ n : Node, n.Told := by
  refine of_children fun n ih m depth x y hx hy h => ?_
  rw [headings_cons, headings_cons] at h
  obtain ⟨hfirst, hrest⟩ := List.cons.inj h
  obtain ⟨hchildren, hxy⟩ := told_below ih hx hy m.children hrest
  exact ⟨label_inj (Prod.mk.inj hfirst).2 hchildren, hxy⟩

/-! ## Lines in a text -/

/-- A label that stands on one line and begins behind the blanks in front of it. -/
structure IsLine (label : Text) : Prop where
  head : ∀ c ∈ label.head?, c ≠ ' '
  newline : '\n' ∉ label

/-- A line of an outline: its label behind two blanks for each step down. -/
def line (p : ℕ × Text) : Text :=
  List.replicate (2 * p.1) ' ' ++ p.2 ++ ['\n']

theorem line_append_inj {p q : ℕ × Text} {x y : Text} (hp : IsLine p.2) (hq : IsLine q.2)
    (h : line p ++ x = line q ++ y) : p = q ∧ x = y := by
  have hline : ∀ p : ℕ × Text, IsLine p.2 → '\n' ∉ List.replicate (2 * p.1) ' ' ++ p.2 := by
    intro p hp hmem
    rcases List.mem_append.1 hmem with hmem | hmem
    · exact absurd (List.eq_of_mem_replicate hmem) (by decide)
    · exact hp.newline hmem
  have hblanks : ∀ n : ℕ, ∀ c ∈ List.replicate n ' ', (c == ' ') = true := fun n c hc =>
    beq_iff_eq.2 (List.eq_of_mem_replicate hc)
  have hhead : ∀ p : ℕ × Text, IsLine p.2 → ∀ c ∈ p.2.head?, (c == ' ') = false := fun p hp c hc =>
    beq_eq_false_iff_ne.2 (hp.head c hc)
  rw [line, line, List.append_assoc _ ['\n'], List.append_assoc _ ['\n']] at h
  obtain ⟨hpq, hxy⟩ := Text.line_append_inj (hline p hp) (hline q hq) h
  obtain ⟨hdepth, hlabel⟩ :=
    Text.append_inj_of_head (hblanks _) (hblanks _) (hhead p hp) (hhead q hq) hpq
  have hlength := congrArg List.length hdepth
  rw [List.length_replicate, List.length_replicate] at hlength
  exact ⟨Prod.ext (by omega) hlabel, hxy⟩

theorem lines_inj {ps qs : List (ℕ × Text)} (hps : ∀ p ∈ ps, IsLine p.2)
    (hqs : ∀ q ∈ qs, IsLine q.2) (h : ps.flatMap line = qs.flatMap line) : ps = qs := by
  have hne : ∀ (p : ℕ × Text) (ps : List (ℕ × Text)), (p :: ps).flatMap line ≠ [] := by
    intro p ps
    simp [line]
  induction ps generalizing qs with
  | nil =>
    cases qs with
    | nil => rfl
    | cons q qs => exact absurd h.symm (hne q qs)
  | cons p ps ih =>
    cases qs with
    | nil => exact absurd h (hne p ps)
    | cons q qs =>
      obtain ⟨hp, hps⟩ := List.forall_mem_cons.1 hps
      obtain ⟨hq, hothers⟩ := List.forall_mem_cons.1 hqs
      obtain ⟨rfl, hrest⟩ := line_append_inj hp hq h
      exact congrArg (p :: ·) (ih hps hothers hrest)

theorem outline_eq (n : Node) : n.outline = (headings 0 n).flatMap line := by
  rw [headings, List.flatMap_map]
  rfl

/-- The line of a node holds no line break if the names in it hold none. -/
theorem isLine_label {n : Node} (h : ∀ x ∈ n.variableNames, '\n' ∉ x) : IsLine n.label := by
  have hword : ∀ k : Kind, '\n' ∉ k.word := by
    intro k
    cases k <;> decide
  have hremark : '\n' ∉ n.remark := by
    cases n with
    | path _ flag | wildcard _ flag => cases flag <;> simp [remark]
    | segment | alternation => exact List.not_mem_nil
    | «variable» span name c =>
      have hname : '\n' ∉ name := h name (by cases c <;> simp [variableNames])
      simpa [remark] using hname
    | regexp span body =>
      simp [remark, Text.newline_not_mem_quoted, Text.newline_not_mem_decimal]
    | text span value => simp [remark, Text.newline_not_mem_quoted]
  have hhead : ∀ k : Kind, k.word.head? ≠ some ' ' := by
    intro k
    cases k <;> decide
  rw [label_eq]
  constructor
  · rw [Kind.head?_word_append]
    rintro c hc rfl
    exact hhead n.kind hc
  · simp [hword, Span.newline_not_mem_render, hremark]

/-- The lines of a tree hold no line break except at their ends if the names in it hold
    none. -/
theorem isLine_of_mem_headings : ∀ (n : Node) (depth : ℕ), (∀ x ∈ n.variableNames, '\n' ∉ x) →
    ∀ p ∈ headings depth n, IsLine p.2 := by
  refine of_children fun n ih depth h => ?_
  rw [headings_cons, List.forall_mem_cons]
  refine ⟨isLine_label h, fun p hp => ?_⟩
  obtain ⟨c, hc, hp⟩ := List.mem_flatMap.1 hp
  exact ih c hc (depth + 1) (fun x hx => h x (mem_variableNames_of_child hc hx)) p hp

/-- A tree whose names hold no line break is determined by its outline. -/
theorem outline_inj {n m : Node} (hn : ∀ x ∈ n.variableNames, '\n' ∉ x)
    (hm : ∀ x ∈ m.variableNames, '\n' ∉ x) (h : n.outline = m.outline) : n = m := by
  rw [outline_eq, outline_eq] at h
  have hlines := lines_inj (isLine_of_mem_headings n 0 hn) (isLine_of_mem_headings m 0 hm) h
  have hnone : Resumes 0 [] := fun p hp => nomatch hp
  exact (n.told m 0 [] [] hnone hnone (congrArg (· ++ []) hlines)).1

end Node

/-! ## The lines of cells -/

/-- What is printed of a cell. The nodes below it have lines of their own. -/
def Cell.label (c : Cell) : Text :=
  match c.entry with
  | .path _ absolute => (Node.path c.span absolute []).label
  | .segment _ => (Node.segment c.span []).label
  | .alternation _ => (Node.alternation c.span []).label
  | .variable name _ => (Node.variable c.span name none).label
  | .wildcard greedy => (Node.wildcard c.span greedy).label
  | .regexp body => (Node.regexp c.span body).label
  | .text value => (Node.text c.span value).label

/-- The lines of a node and of what is below it, at most so many levels down. -/
def Arena.outlineWithin (a : Arena) : ℕ → ℕ → ℕ → Text
  | 0, _, _ => []
  | fuel + 1, depth, id =>
    match a[id]? with
    | some c =>
      Node.line (depth, c.label) ++ c.entry.below.flatMap (a.outlineWithin fuel (depth + 1))
    | none => []

/-- The outline of a tree in cells, each node in front of those below it. -/
def Arena.outline (a : Arena) : Text :=
  a.outlineWithin a.length 0 0

theorem Form.label_node (f : Form) (ids : List ℕ) (parent : Option ℕ) (span : Span)
    (ns : List Node) : (f.node span ns).label = (Cell.mk (f.entry ids) parent span).label := by
  cases f <;> rfl

namespace Numbered

variable {a : Arena}

mutual

theorem outlineWithin_eq : ∀ (t : Numbered) (parent : Option ℕ) (fuel depth : ℕ), t.Fits →
    (∀ x ∈ t.cells parent, a[x.1]? = some x.2) → (t.cells parent).length ≤ fuel →
    a.outlineWithin fuel depth t.id = (t.node.headings depth).flatMap Node.line
  | ⟨i, form, span, ts⟩, parent, 0, _, _, _, hf => by simp [cells] at hf
  | ⟨i, form, span, ts⟩, parent, fuel + 1, depth, ht, hx, hf => by
    have hroot := hx (i, ⟨form.entry (ts.map id), parent, span⟩) (by simp [cells])
    have hbelow := outlineWithin_eq_below ts i fuel (depth + 1) ht.2
      (fun x h => hx x (by simp [cells, h])) (by simpa [cells] using hf)
    rw [Numbered.id, Arena.outlineWithin, hroot, Node.headings_cons, children_node ht, node,
      form.label_node (ts.map id) parent, List.flatMap_cons, ← hbelow]
    exact congrArg (fun ids : List ℕ => Node.line _ ++ ids.flatMap (a.outlineWithin fuel _)) ht.1

theorem outlineWithin_eq_below : ∀ (ts : List Numbered) (i fuel depth : ℕ), FitAll ts →
    (∀ x ∈ cellsBelow i ts, a[x.1]? = some x.2) → (cellsBelow i ts).length ≤ fuel →
    (ts.map id).flatMap (a.outlineWithin fuel depth) =
      ((nodes ts).flatMap (Node.headings depth)).flatMap Node.line
  | [], _, _, _, _, _, _ => rfl
  | t :: ts, i, fuel, depth, ⟨ht, hts⟩, hx, hf => by
    rw [cellsBelow, List.length_append] at hf
    have hhead := outlineWithin_eq t (some i) fuel depth ht
      (fun x h => hx x (by simp [cellsBelow, h])) (by omega)
    have htail := outlineWithin_eq_below ts i fuel depth hts
      (fun x h => hx x (by simp [cellsBelow, h])) (by omega)
    rw [List.map_cons, List.flatMap_cons, hhead, htail, nodes, List.flatMap_cons,
      List.flatMap_append]

end

end Numbered

/-- The outline that is read off the cells of a tree is that of the tree. -/
theorem Arena.Stores.outline_eq {a : Arena} {t : Numbered} (h : a.Stores (t.cells none))
    (ht : t.Fits) (hi : t.id = 0) : a.outline = t.node.outline := by
  have := t.outlineWithin_eq none a.length 0 ht h.holds h.length_eq.le
  rwa [hi, ← Node.outline_eq] at this

/-! ## Patterns -/

/-- A pattern with a tree has cells, which hold this tree and have its outline. -/
theorem exists_arena_of_parse {pattern : Text} {root : Node} (h : parse pattern = .ok root) :
    ∃ a, Arena.ofPattern pattern = .ok a ∧ a.tree? = some root ∧ a.outline = root.outline := by
  have halike := ofPattern_alike pattern
  rw [h] at halike
  generalize Arena.ofPattern pattern = x at halike
  cases halike with
  | @ok a _ ht =>
    obtain ⟨t, hstores, hfits, hid, rfl⟩ := ht
    exact ⟨a, rfl, hstores.tree?_eq hfits hid, hstores.outline_eq hfits hid⟩

theorem newline_not_mem_of_parse {pattern : Text} {root : Node} (h : parse pattern = .ok root) :
    ∀ x ∈ root.variableNames, '\n' ∉ x := fun x hx hmem =>
  absurd (isNameChar_of_parse h x hx '\n' hmem) (by decide)

/-- **Outlines.** Nothing of a tree is lost in its outline: two patterns have the same outline
    only if they have the same tree, with its kinds of nodes, their order and nesting, their
    flags, names, texts and bodies, and with it the counts of groups in these, and all spans.
    What the cells of the two patterns hold is then the same tree, whatever its nodes are
    numbered. -/
theorem outline_eq_iff {p q : Text} {n m : Node} (hp : parse p = .ok n) (hq : parse q = .ok m) :
    (n.outline = m.outline ↔ n = m) ∧
      ∃ a b, Arena.ofPattern p = .ok a ∧ Arena.ofPattern q = .ok b ∧
        a.outline = n.outline ∧ b.outline = m.outline ∧
          (a.outline = b.outline ↔ ∃ root, a.tree? = some root ∧ b.tree? = some root) := by
  have hiff : n.outline = m.outline ↔ n = m :=
    ⟨Node.outline_inj (newline_not_mem_of_parse hp) (newline_not_mem_of_parse hq),
      congrArg Node.outline⟩
  obtain ⟨a, ha, hat, hao⟩ := exists_arena_of_parse hp
  obtain ⟨b, hb, hbt, hbo⟩ := exists_arena_of_parse hq
  refine ⟨hiff, a, b, ha, hb, hao, hbo, ?_⟩
  rw [hao, hbo, hiff, hat, hbt]
  constructor
  · rintro rfl
    exact ⟨n, rfl, rfl⟩
  · rintro ⟨root, hn, hm⟩
    exact Option.some.inj (hn.trans hm.symm)

/-- A quoted text that holds quotes and a line break, and reads like the rest of the line of
    one text and the line of a second one, does not stand for the two of them. -/
theorem outline_eq_iff_newline :
    ∃ n m, parse "/\x27a\x22\n    Text 4..7 \x22b\x27".toList = .ok n ∧
      parse "/\x27a\x27\x27b\x27".toList = .ok m ∧
        n.texts = ["a\x22\n    Text 4..7 \x22b".toList] ∧
          m.texts = ["a".toList, "b".toList] ∧ n.outline ≠ m.outline := by
  have hn : (parse "/\x27a\x22\n    Text 4..7 \x22b\x27".toList).map Node.texts =
      .ok ["a\x22\n    Text 4..7 \x22b".toList] := by decide
  have hm : (parse "/\x27a\x27\x27b\x27".toList).map Node.texts =
      .ok ["a".toList, "b".toList] := by decide
  obtain ⟨n, hp, hntexts⟩ := map_eq_ok.1 hn
  obtain ⟨m, hq, hmtexts⟩ := map_eq_ok.1 hm
  refine ⟨n, m, hp, hq, hntexts, hmtexts, fun heq => ?_⟩
  have hnm := (outline_eq_iff hp hq).1.1 heq
  rw [hnm, hmtexts] at hntexts
  cases hntexts

end PathRouting.Pattern
