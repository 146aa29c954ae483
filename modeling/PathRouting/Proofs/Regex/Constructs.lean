/-
  What the reader of regular expressions can do, said once.

  Later facts about the reader are read off from here, with one case for each kind of
  thing that it can meet.

  * `Escape`: the escape sequences, by the character behind the backslash; `EdgeRead`: the
    edges of words among them.
  * `RangeRead`, `ClassReader.Part`: the members and the parts of a class.
  * `Reader.Construct`: the constructs, by the character with which they start.
  * `Reader.openGroup_eq_ok`, `Reader.closeGroup_eq_ok`, `Reader.iterate_eq_ok`,
    `Reader.iterateCounted_eq_ok`: the readers behind a parenthesis and behind a repetition.
-/
import PathRouting.Proofs.Regex.Units

namespace PathRouting.Regex

section
variable {f : Flags} {t rest : Text}

/-! ## Escape sequences -/

/-- The escape sequences, by the character behind the backslash. -/
inductive Escape where
  | hex
  | property
  | edge
  /-- nothing behind the character belongs to the sequence -/
  | single (meaning : Except Rejection Atom)

namespace Escape

/-- The sequence of a letter or an angle bracket that names something. -/
def ofLetter (f : Flags) (c : Char) : Escape :=
  match classOfLetter f c, controlOf? c with
  | some s, _ => .single (s.map .set)
  | none, some v => .single (.ok (.literal v false))
  | none, none =>
    if c = 'A' then .single (.ok (.look .textStart))
    else if c = 'z' then .single (.ok (.look .textEnd))
    else if c = 'b' then .edge
    else if c = 'B' then .single (.ok (.look (.word .inside f.unicode)))
    else if c = '<' then .single (.ok (.look (.word .start f.unicode)))
    else if c = '>' then .single (.ok (.look (.word .stop f.unicode)))
    else .single (.error .badEscape)

/-- The escape sequence that starts with a character. -/
def of (f : Flags) (c : Char) : Escape :=
  if Text.isDigit c then .single (.error .backreference)
  else if c = 'x' ∨ c = 'u' ∨ c = 'U' then .hex
  else if c = 'p' ∨ c = 'P' then .property
  else if isEscapable c then .single (.ok (.literal c false))
  else ofLetter f c

/-- Reads an escape sequence behind its first character. -/
def read (f : Flags) (c : Char) (t : Text) : Escape → Reading Atom
  | .hex => readHex f c t
  | .property => readProperty f (c = 'P') t
  | .edge => (readEdge f t).map fun (e, rest) => (.look (.word e f.unicode), rest)
  | .single a => a.map fun a => (a, t)

theorem ofLetter_ne_property (f : Flags) (c : Char) : ofLetter f c ≠ .property := by
  unfold ofLetter
  split
  · exact nofun
  · exact nofun
  · split_ifs <;> exact nofun

theorem of_eq_property {c : Char} : of f c = .property ↔ c = 'p' ∨ c = 'P' := by
  constructor
  · intro h
    unfold of at h
    split_ifs at h with _ _ hc
    · exact hc
    · exact absurd h (ofLetter_ne_property f c)
  · rintro (rfl | rfl) <;> rfl

end Escape

theorem readEscape_cons (f : Flags) (c : Char) (t : Text) :
    readEscape f (c :: t) = (Escape.of f c).read f c t := by
  unfold readEscape Escape.of Escape.ofLetter
  simp only [apply_ite (Escape.read f c t)]
  cases classOfLetter f c with
  | some s => cases s <;> rfl
  | none =>
    cases controlOf? c with
    | some v => rfl
    | none =>
      simp only [apply_ite (Escape.read f c t)]
      rfl

/-! ## Edges of words -/

/-- The edge with a name. -/
def edgeOf? (name : Text) : Option WordEdge :=
  if name = "start".toList then some .start
  else if name = "end".toList then some .stop
  else if name = "start-half".toList then some .startHalf
  else if name = "end-half".toList then some .stopHalf
  else none

/-- What is read as an edge of words: one with a name between braces, or one without. The
    braces of something else are left. -/
inductive EdgeRead (f : Flags) : Text → WordEdge → Text → Prop
  | plain {t : Text} : t.head? ≠ some '\x7b' → EdgeRead f t .boundary t
  | braced {t : Text} {c more} : skip f t = c :: more → isEdgeChar c = false →
      EdgeRead f ('\x7b' :: t) .boundary ('\x7b' :: t)
  | named {t : Text} {c more name} {rest : Text} {e} : skip f t = c :: more → isEdgeChar c = true →
      readEdgeName f [] (more.length + 1) (c :: more) = (name, '\x7d' :: rest) →
      edgeOf? name = some e → EdgeRead f ('\x7b' :: t) e rest

theorem readEdge_eq_ok {e : WordEdge} : readEdge f t = .ok (e, rest) ↔ EdgeRead f t e rest := by
  constructor
  · intro h
    unfold readEdge at h
    split at h
    case h_2 hne =>
      cases h
      refine .plain fun ht => ?_
      obtain ⟨u, hu⟩ := List.head?_eq_some_iff.1 ht
      exact hne u hu
    case h_1 t =>
      split at h
      · cases h
      case h_2 c more hs =>
      split at h
      case isTrue hc =>
        cases h
        exact .braced hs (by simpa using hc)
      case isFalse hc =>
      have hc : isEdgeChar c = true := by simpa using hc
      split at h
      case h_2 => cases h
      case h_1 name rest' hn =>
      have hname : ∃ e', edgeOf? name = some e' ∧ (e', rest') = (e, rest) := by
        unfold edgeOf?
        split_ifs at h ⊢ <;> exact ⟨_, rfl, Except.ok.inj h⟩
      obtain ⟨e', he, heq⟩ := hname
      cases heq
      exact .named hs hc hn he
  · intro h
    cases h with
    | plain ht =>
      unfold readEdge
      split
      · exact absurd rfl ht
      · rfl
    | braced hs hc =>
      simp only [readEdge, hs]
      exact if_pos (by simp [hc])
    | @named _ _ _ name _ _ hs hc hn he =>
      simp only [readEdge, hs]
      rw [if_neg (by simp [hc]), hn]
      show (if name = _ then _ else _) = _
      unfold edgeOf? at he
      split_ifs at he ⊢ <;> cases he <;> rfl

/-! ## Members of classes -/

theorem readMember_of_ne {c : Char} (hc : c ≠ '\\') (t : Text) :
    readMember f (c :: t) = .ok (.literal c false, t) := by
  unfold readMember
  split
  case h_1 he => cases he
  case h_2 he => cases he; exact absurd rfl hc
  case h_3 he => cases he; rfl

/-- What a character or an escape sequence adds to a class, if it is no end of a range. -/
def Atom.member (f : Flags) : Atom → Except Rejection CharSet
  | .literal v byte => (literalPoint f v byte).map .single
  | .set s => .ok s
  | .look _ => .error .badClass

/-- The range from one character to another one. -/
def Atom.upTo (f : Flags) : Atom → Atom → Except Rejection CharSet
  | .literal v byte, .literal w byte' =>
    (literalPoint f v byte).bind fun lo => (literalPoint f w byte').bind fun hi =>
      if lo ≤ hi then .ok (.range lo hi) else .error .badRange
  | _, _ => .error .badRange

theorem Atom.ne_look_of_member {a : Atom} {s : CharSet} (h : a.member f = .ok s) (l : Look) :
    a ≠ .look l := by
  rintro rfl
  cases h

theorem Atom.ne_look_of_upTo {a b : Atom} {s : CharSet} (h : a.upTo f b = .ok s) (l : Look) :
    a ≠ .look l ∧ b ≠ .look l := by
  constructor
  · rintro rfl
    cases h
  · rintro rfl
    cases a <;> cases h

theorem readRange_eq (f : Flags) (t : Text) :
    readRange f t = (readMember f t).bind fun (a, u) => match skip f u with
      | [] => .error .unclosedClass
      | c :: more =>
        if c ≠ '-' ∨ peek f more = some ']' ∨ peek f more = some '-' then
          (a.member f).map fun s => (s, c :: more)
        else match skip f more with
          | [] => .error .unclosedClass
          | d :: more => (readMember f (d :: more)).bind fun (b, rest) =>
            (a.upTo f b).map fun s => (s, rest) := by
  unfold readRange
  refine congrArg _ (funext fun ⟨a, u⟩ => ?_)
  dsimp only
  cases skip f u with
  | nil => rfl
  | cons c more =>
    dsimp only
    split_ifs
    · cases a with
      | literal v byte =>
        unfold Atom.member
        dsimp only
        cases literalPoint f v byte <;> rfl
      | set | look => rfl
    · cases skip f more with
      | nil => rfl
      | cons d more =>
        dsimp only
        refine congrArg _ (funext fun p => ?_)
        obtain ⟨b, rest⟩ := p
        match a, b with
        | .literal v byte, .literal w byte' =>
          unfold Atom.upTo
          dsimp only
          cases literalPoint f v byte with
          | error => rfl
          | ok lo =>
            cases literalPoint f w byte' with
            | error => rfl
            | ok hi =>
              show (if lo ≤ hi then _ else _) = Except.map _ (if lo ≤ hi then _ else _)
              split_ifs <;> rfl
        | .literal .., .set _ | .literal .., .look _ | .set _, _ | .look _, _ => rfl

/-- What is read as one member of a union: a single one, or a range. -/
inductive RangeRead (f : Flags) (t : Text) : CharSet → Text → Prop
  | single {a u c more s} : readMember f t = .ok (a, u) → skip f u = c :: more →
      (c ≠ '-' ∨ peek f more = some ']' ∨ peek f more = some '-') → a.member f = .ok s →
      RangeRead f t s (c :: more)
  | range {a u more d more' b rest s} : readMember f t = .ok (a, u) → skip f u = '-' :: more →
      peek f more ≠ some ']' → peek f more ≠ some '-' → skip f more = d :: more' →
      readMember f (d :: more') = .ok (b, rest) → a.upTo f b = .ok s → RangeRead f t s rest

theorem readRange_eq_ok {s : CharSet} :
    readRange f t = .ok (s, rest) ↔ RangeRead f t s rest := by
  rw [readRange_eq]
  constructor
  · intro h
    obtain ⟨⟨a, u⟩, ha, h⟩ := bind_eq_ok.1 h
    dsimp only at h
    split at h
    · cases h
    case h_2 c more hs =>
    split at h
    case isTrue hc =>
      obtain ⟨s, hm, he⟩ := map_eq_ok.1 h
      cases he
      exact .single ha hs hc hm
    case isFalse hc =>
      rw [not_or, not_or, not_not] at hc
      obtain ⟨rfl, hclose, hdash⟩ := hc
      split at h
      · cases h
      case h_2 d more' hs' =>
      obtain ⟨⟨b, v⟩, hb, h⟩ := bind_eq_ok.1 h
      obtain ⟨s, hm, he⟩ := map_eq_ok.1 h
      cases he
      exact .range ha hs hclose hdash hs' hb hm
  · intro h
    cases h with
    | single ha hs hc hm =>
      refine bind_eq_ok.2 ⟨_, ha, ?_⟩
      dsimp only
      rw [hs]
      exact (if_pos hc).trans (map_eq_ok.2 ⟨_, hm, rfl⟩)
    | range ha hs hclose hdash hs' hb hm =>
      refine bind_eq_ok.2 ⟨_, ha, ?_⟩
      dsimp only
      rw [hs]
      refine (if_neg (by simp [hclose, hdash])).trans ?_
      rw [hs']
      exact bind_eq_ok.2 ⟨_, hb, map_eq_ok.2 ⟨_, hm, rfl⟩⟩

end

/-! ## Parts of classes -/

/-- The character that stands twice for an operator. -/
def SetOperator.mark : SetOperator → Char
  | .intersection => '&'
  | .difference => '-'
  | .symmetricDifference => '~'

namespace ClassReader

variable {f : Flags} {r : ClassReader} {t rest : Text} {result : ClassReader ⊕ CharSet × ℕ}

/-- What is read as one part of a class. -/
inductive Part (f : Flags) (r : ClassReader) : Text → ClassReader ⊕ CharSet × ℕ → Text → Prop
  | named {t : Text} {named s} : readNamedClass? t = some named →
      bracketed f named.1 (.table named.2.1) = .ok s →
      Part f r ('[' :: t) (.inl { r with current := r.current.add s 0 }) named.2.2
  | bracket {t : Text} : readNamedClass? t = none →
      Part f r ('[' :: t) (.inl ⟨.bracket (openClass f t).1 r.current :: r.frames,
        (openClass f t).2.1⟩) (openClass f t).2.2
  | close {t : Text} {result} : r.close f = .ok result → Part f r (']' :: t) result t
  | operator {t : Text} (op : SetOperator) :
      Part f r (op.mark :: op.mark :: t) (.inl (r.operate f op)) t
  | member {c : Char} {t rest : Text} {s} : c ≠ '[' → c ≠ ']' →
      (∀ op : SetOperator, c = op.mark → t.head? ≠ some op.mark) →
      readRange f (c :: t) = .ok (s, rest) →
      Part f r (c :: t) (.inl { r with current := r.current.add s 0 }) rest

theorem step_open (t : Text) :
    r.step f ('[' :: t) = match readNamedClass? t with
      | some (negated, table, more) => (bracketed f negated (.table table)).bind fun s =>
          .ok (.inl { r with current := r.current.add s 0 }, more)
      | none =>
        .ok (.inl ⟨.bracket (openClass f t).1 r.current :: r.frames, (openClass f t).2.1⟩,
          (openClass f t).2.2) := rfl

theorem step_eq_ok : r.step f t = .ok (result, rest) ↔ Part f r t result rest := by
  constructor
  · intro h
    unfold ClassReader.step at h
    dsimp only at h
    split at h
    · cases h
    · split at h
      case h_1 hn =>
        obtain ⟨s, hs, he⟩ := bind_eq_ok.1 h
        cases he
        exact .named hn hs
      case h_2 hn =>
        cases h
        exact .bracket hn
    · obtain ⟨_, hc, he⟩ := map_eq_ok.1 h
      cases he
      exact .close hc
    · cases h
      exact .operator .intersection
    · cases h
      exact .operator .difference
    · cases h
      exact .operator .symmetricDifference
    case h_7 hnil hopen hclose hand hdash htilde =>
      obtain ⟨⟨s, _⟩, hr, he⟩ := bind_eq_ok.1 h
      cases he
      obtain ⟨c, t, rfl⟩ := List.exists_cons_of_ne_nil hnil
      refine .member (fun hc => hopen t (by rw [hc])) (fun hc => hclose t (by rw [hc])) ?_ hr
      rintro op rfl ht
      obtain ⟨t, rfl⟩ := List.head?_eq_some_iff.1 ht
      cases op with
      | intersection => exact hand t rfl
      | difference => exact hdash t rfl
      | symmetricDifference => exact htilde t rfl
  · intro h
    cases h with
    | named hn hs =>
      rw [step_open, hn]
      exact bind_eq_ok.2 ⟨_, hs, rfl⟩
    | bracket hn =>
      rw [step_open, hn]
    | close hc => exact map_eq_ok.2 ⟨_, hc, rfl⟩
    | operator op => cases op <;> rfl
    | @member c t _ s hopen hclose hop hr =>
      unfold ClassReader.step
      split
      case h_1 he => cases he
      case h_2 he => cases he; exact absurd rfl hopen
      case h_3 he => cases he; exact absurd rfl hclose
      case h_4 he => cases he; exact absurd rfl (hop .intersection rfl)
      case h_5 he => cases he; exact absurd rfl (hop .difference rfl)
      case h_6 he => cases he; exact absurd rfl (hop .symmetricDifference rfl)
      case h_7 => exact bind_eq_ok.2 ⟨_, hr, rfl⟩

end ClassReader

/-! ## Constructs -/

/-- What a group makes of the expression between its parentheses. -/
def OpenGroup.wrap (g : OpenGroup) (e : Expr) : Expr :=
  match g.capture with
  | some (index, name) => .group index name e
  | none => e

namespace Reader

/-- The constructs, by the character with which they start. -/
inductive Construct where
  | group
  | close
  | bar
  | set
  | iterate (min : ℕ) (max : Option ℕ)
  | counts
  | escape
  | dot
  | look (l : Flags → Look)
  | char (c : Char)

namespace Construct

/-- The construct that starts with a character. -/
def of (c : Char) : Construct :=
  if c = '(' then .group
  else if c = ')' then .close
  else if c = '|' then .bar
  else if c = '[' then .set
  else if c = '?' then .iterate 0 (some 1)
  else if c = '*' then .iterate 0 none
  else if c = '+' then .iterate 1 none
  else if c = '\x7b' then .counts
  else if c = '\\' then .escape
  else if c = '.' then .dot
  else if c = '^' then .look lineStart
  else if c = '$' then .look lineEnd
  else .char c

/-- The character with which a construct starts, for those that start with one only. -/
def mark? : Construct → Option Char
  | .group => some '('
  | .close => some ')'
  | .bar => some '|'
  | .set => some '['
  | .escape => some '\\'
  | .iterate .. | .counts | .dot | .look _ | .char _ => none

theorem eq_of_mark {c e : Char} : (of c).mark? = some e → c = e := by
  have hite : ∀ {d : Char} {k k' : Construct}, (k.mark? = some e → c = d → c = e) →
      (k'.mark? = some e → c = e) → (if c = d then k else k').mark? = some e → c = e := by
    intro d k k' hk hk' h
    split_ifs at h with hc
    · exact hk h hc
    · exact hk' h
  have hmark : ∀ {d : Char}, some d = some e → c = d → c = e := fun h hc => hc.trans (Option.some.inj h)
  have hnone : ∀ {p : Prop}, none = some e → p := fun h => nomatch h
  unfold of
  refine hite hmark (hite hmark (hite hmark (hite hmark (hite hnone (hite hnone (hite hnone
    (hite hnone (hite hmark (hite hnone (hite hnone (hite hnone hnone)))))))))))

/-- Reads a construct behind its first character. -/
def read (r : Reader) (t : Text) : Construct → Except Rejection (Reader × Text)
  | .group => r.openGroup t
  | .close => r.closeGroup.map fun r' => (r', t)
  | .bar => .ok ({ r with level := r.level.split }, t)
  | .set => (readClass r.flags t).map fun ((s, depth), rest) => (r.push (.ofSet s) depth, rest)
  | .iterate min max =>
    (r.iterate min max (readGreed t).1).map fun r' => (r', (readGreed t).2)
  | .counts => r.iterateCounted t
  | .escape => (readEscape r.flags t).bind fun (a, rest) => (r.pushAtom a).map fun r' => (r', rest)
  | .dot => (Reader.dot r.flags).map fun s => (r.push (.ofSet s) 0, t)
  | .look l => .ok (r.push (.look (l r.flags)) 0, t)
  | .char c => (r.pushAtom (.literal c false)).map fun r' => (r', t)

end Construct

theorem step_eq (r : Reader) (c : Char) (t : Text) : r.step c t = (Construct.of c).read r t := by
  unfold Construct.of
  simp only [apply_ite (Construct.read r t)]
  rfl

section
variable {r r' : Reader} {t rest : Text}

/-- What flags may start with. -/
theorem readFrom_head {f : Flags} {c : Char} {p : Flags × Bool × Text}
    (h : f.readFrom [] (c :: t) = .ok p) : c ≠ '=' ∧ c ≠ '!' ∧ c ≠ '<' ∧ c ≠ 'P' := by
  refine ⟨?_, ?_, ?_, ?_⟩ <;> rintro rfl <;> simp [Flags.readFrom, Flags.put] at h

/-- What is read behind an opening parenthesis: a name under one of two marks, flags, or
    nothing. -/
inductive Opening (r : Reader) (t : Text) : Reader → Text → Prop
  | marked {u rest : Text} {r'} : skip r.flags t = '?' :: 'P' :: '<' :: u →
      r.openNamed u = .ok (r', rest) → Opening r t r' rest
  | named {c : Char} {u rest : Text} {r'} : skip r.flags t = '?' :: '<' :: c :: u → c ≠ '=' →
      c ≠ '!' → r.openNamed (c :: u) = .ok (r', rest) → Opening r t r' rest
  | flags {c : Char} {u rest : Text} {r'} : skip r.flags t = '?' :: c :: u →
      r.openFlags (c :: u) = .ok (r', rest) → Opening r t r' rest
  | capture : (skip r.flags t).head? ≠ some '?' →
      Opening r t (r.openCapture none) (skip r.flags t)

theorem openGroup_eq_ok : r.openGroup t = .ok (r', rest) ↔ Opening r t r' rest := by
  constructor
  · intro h
    unfold openGroup at h
    split at h
    case h_5 u hs => exact .marked hs h
    case h_6 u he hn hs =>
      match u with
      | [] => cases h
      | c :: u =>
        refine .named hs ?_ ?_ h
        · rintro rfl
          exact he u rfl
        · rintro rfl
          exact hn u rfl
    case h_7 u _ _ _ _ _ _ hs =>
      match u with
      | [] => cases h
      | c :: u => exact .flags hs h
    case h_8 hq =>
      cases h
      refine .capture fun hh => ?_
      obtain ⟨u, hu⟩ := List.head?_eq_some_iff.1 hh
      exact hq u hu
    all_goals cases h
  · intro h
    unfold openGroup
    cases h with
    | marked hs h =>
      rw [hs]
      exact h
    | named hs he hn h =>
      rw [hs]
      split
      case h_6 hm => cases hm; exact h
      case h_3 hm => cases hm; exact absurd rfl he
      case h_4 hm => cases hm; exact absurd rfl hn
      case h_7 hne hm => cases hm; exact (hne _ rfl).elim
      case h_8 hne => exact (hne _ rfl).elim
      all_goals rename_i hm; cases hm
    | flags hs h =>
      obtain ⟨_, hf, -⟩ := map_eq_ok.1 h
      obtain ⟨h1, h2, h3, h4⟩ := readFrom_head hf
      rw [hs]
      split
      case h_7 hm => cases hm; exact h
      case h_8 hne => exact (hne _ rfl).elim
      all_goals rename_i hm; cases hm; contradiction
    | capture hq =>
      split
      case h_8 => rfl
      all_goals rename_i hm; rw [hm] at hq; exact absurd rfl hq

/-- What it takes to close a group, and what it leaves. -/
theorem closeGroup_eq_ok : r.closeGroup = .ok r' ↔
    ∃ g gs, r.enclosing = g :: gs ∧ r' = { r with
      flags := g.flags
      level := g.outer.push (g.wrap r.level.close.1) (r.level.close.2 + 1)
      enclosing := gs } := by
  unfold closeGroup
  cases r.enclosing with
  | nil => exact ⟨nofun, nofun⟩
  | cons g gs =>
    constructor
    · intro h
      cases h
      exact ⟨g, gs, rfl, rfl⟩
    · rintro ⟨g', gs', he, rfl⟩
      cases he
      rfl

/-- What it takes to repeat an item, and what it leaves. -/
theorem iterate_eq_ok {min : ℕ} {max : Option ℕ} {greedy : Bool} :
    r.iterate min max greedy = .ok r' ↔
      ∃ e depth items, r.level.items = ⟨e, depth, false⟩ :: items ∧ r' = { r with
        level := { r.level with
          items := ⟨e.iterate min max (greedy != r.flags.swapGreed), depth + 1, false⟩ :: items } } := by
  unfold iterate
  split
  case h_1 e depth items hi =>
    rw [hi]
    constructor
    · intro h
      cases h
      exact ⟨e, depth, items, rfl, rfl⟩
    · rintro ⟨e', depth', items', he, rfl⟩
      cases he
      rfl
  case h_2 hne => exact ⟨nofun, fun ⟨e, depth, items, he, _⟩ => absurd he (hne e depth items)⟩

theorem closeGroup_groups (h : r.closeGroup = .ok r') : r'.groups = r.groups := by
  obtain ⟨_, _, -, rfl⟩ := closeGroup_eq_ok.1 h
  rfl

theorem closeGroup_names (h : r.closeGroup = .ok r') : r'.names = r.names := by
  obtain ⟨_, _, -, rfl⟩ := closeGroup_eq_ok.1 h
  rfl

/-- A repetition changes the level at hand only. -/
theorem iterate_eq_level {min : ℕ} {max : Option ℕ} {greedy : Bool}
    (h : r.iterate min max greedy = .ok r') : r' = { r with level := r'.level } := by
  obtain ⟨_, _, _, -, rfl⟩ := iterate_eq_ok.1 h
  rfl

/-- Counts repeat what a sign repeats. -/
theorem iterateCounted_eq_ok : r.iterateCounted t = .ok (r', rest) ↔
    ∃ min max u, readCounts r.flags t = .ok ((min, max), u) ∧
      r.iterate min max (readGreed (skip r.flags u)).1 = .ok r' ∧
      (readGreed (skip r.flags u)).2 = rest := by
  unfold iterateCounted
  constructor
  · intro h
    split at h
    · cases h
    obtain ⟨⟨⟨min, max⟩, u⟩, hc, h⟩ := bind_eq_ok.1 h
    obtain ⟨_, hi, he⟩ := map_eq_ok.1 h
    cases he
    exact ⟨min, max, u, hc, hi, rfl⟩
  · rintro ⟨min, max, u, hc, hi, rfl⟩
    -- what can be repeated is no directive
    obtain ⟨e, depth, items, he, -⟩ := iterate_eq_ok.1 hi
    rw [if_neg (by simp [he])]
    exact bind_eq_ok.2 ⟨_, hc, map_eq_ok.2 ⟨_, hi, rfl⟩⟩

theorem iterateCounted_eq_level (h : r.iterateCounted t = .ok (r', rest)) :
    r' = { r with level := r'.level } := by
  obtain ⟨_, _, _, -, hi, -⟩ := iterateCounted_eq_ok.1 h
  exact iterate_eq_level hi

end

end Reader

end PathRouting.Regex
