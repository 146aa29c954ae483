/-
  Routes whose patterns are literal text.

  If letter case does not matter, a character counts as any other one with the same
  folded form. For most of the first 128 characters these are just the small and the
  capital letter, but the Kelvin sign folds to `k`, and the long s to `s`.

  * `literal?` is the text of lexemes that are all literal.
  * `Node.literalTree`: a tree of such lexemes has no variables and stands for the
    spellings of their text.
  * `Text.lower_eq_of_folded_eq_iff`: when the folded form tells no more letters together
    than the small forms of Latin capitals do.
  * `resolve_literal`: what a route with such a pattern answers.
-/
import PathRouting.Proofs.Pattern.Agreement
import PathRouting.Proofs.Pattern.Flattening
import PathRouting.Proofs.Pattern.Language
import PathRouting.Proofs.Route.Nested
import PathRouting.Proofs.Unicode.Folding

namespace PathRouting

/-! ## Texts up to letter case -/

namespace Unicode

/-- One rule covers code points below 128, that for the Latin capitals. -/
theorem rules_from_ascii : ∀ r ∈ foldRules, r.first < 128 → r = ⟨0x41, 0x5A, 1, 0x61⟩ := by
  decide +kernel

/-- Three lead there: that one, and those for the long s and for the Kelvin sign. -/
theorem rules_to_ascii : ∀ r ∈ foldRules, r.target < 128 →
    r = ⟨0x41, 0x5A, 1, 0x61⟩ ∨ r = ⟨0x17F, 0x17F, 1, 0x73⟩ ∨ r = ⟨0x212A, 0x212A, 1, 0x6B⟩ := by
  decide +kernel

end Unicode

namespace Text

/-- The folded forms of the characters of a text. -/
def folded (t : Text) : List ℕ :=
  t.map fun c => Unicode.fold c.toNat

theorem toNat_lowerChar {c : Char} (h : c.toNat < 128) :
    (lowerChar c).toNat = Unicode.fold c.toNat := by
  unfold lowerChar
  split
  case isTrue hcapital =>
    have hle : 0x41 ≤ c.toNat ∧ c.toNat ≤ 0x5A := hcapital
    have hfold : Unicode.fold c.toNat = 0x61 + (c.toNat - 0x41) :=
      Unicode.fold_of_covers (r := ⟨0x41, 0x5A, 1, 0x61⟩) List.mem_cons_self
        (Unicode.FoldRule.covers_iff.2 ⟨hle.1, hle.2, Nat.mod_one _⟩)
    have hvalid : (c.toNat + 32).isValidChar := .inl (by omega)
    rw [Char.ofNat, dif_pos hvalid, hfold]
    exact (show c.toNat + 32 = _ by omega)
  case isFalse hcapital =>
    refine (Unicode.fold_of_not_covers fun r hr hcovers => hcapital ?_).symm
    obtain ⟨hfirst, hlast, -⟩ := Unicode.FoldRule.covers_iff.1 hcovers
    obtain rfl := Unicode.rules_from_ascii r hr (hfirst.trans_lt h)
    exact ⟨hfirst, hlast⟩

theorem fold_lowerChar (c : Char) : Unicode.fold (lowerChar c).toNat = Unicode.fold c.toNat := by
  by_cases h : 'A' ≤ c ∧ c ≤ 'Z'
  · have hascii : c.toNat < 128 := (show c.toNat ≤ 0x5A from h.2).trans_lt (by decide)
    rw [toNat_lowerChar hascii, Unicode.fold_fold]
  · rw [lowerChar, if_neg h]

/-- Letters that are the same in small form have the same folded form. -/
theorem folded_eq_of_lower_eq {s t : Text} (h : lower s = lower t) : folded s = folded t := by
  have hlower : ∀ u : Text, folded (lower u) = folded u := by
    intro u
    rw [folded, lower, List.map_map]
    exact List.map_congr_left fun c _ => fold_lowerChar c
  rw [← hlower s, h, hlower t]

/-- A character that has the folded form only of itself, or of itself and the same
    Latin letter in the other case. -/
def IsPlainCase (c : Char) : Prop :=
  ∀ d : Char, Unicode.fold d.toNat = Unicode.fold c.toNat → lowerChar d = lowerChar c

/-- Texts with the folded form of `t` have its small form exactly if all characters of
    `t` allow for it. -/
theorem lower_eq_of_folded_eq_iff {t : Text} :
    (∀ s, folded s = folded t → lower s = lower t) ↔ ∀ c ∈ t, IsPlainCase c := by
  constructor
  · -- in `t` one occurrence of `c` is replaced
    intro h c hc d hd
    obtain ⟨front, back, rfl⟩ := List.append_of_mem hc
    have hs := h (front ++ d :: back) (by simp [folded, hd])
    simpa [lower] using hs
  · intro h
    induction t with
    | nil =>
      intro s hs
      rw [List.map_eq_nil_iff.1 hs]
    | cons c t ih =>
      intro s hs
      obtain ⟨hc, ht⟩ := List.forall_mem_cons.1 h
      obtain ⟨d, u, rfl, hd, hu⟩ := List.map_eq_cons_iff.1 hs
      rw [lower, lower, List.map_cons, List.map_cons, hc d hd]
      exact congrArg _ (ih ht u hu)

theorem lowerChar_ascii : ∀ n < 128, (lowerChar (Char.ofNat n)).toNat < 128 ∧
    ((lowerChar (Char.ofNat n)).toNat ∈ [0x6B, 0x73] → Char.ofNat n ∈ "KSks".toList) := by
  decide +kernel

/-- Of the first 128 characters only two letters have the folded form of others than
    themselves. -/
theorem isPlainCase_iff {c : Char} (h : c.toNat < 128) :
    IsPlainCase c ↔ c ∉ "KSks".toList := by
  constructor
  · -- the Kelvin sign and the long s
    intro hplain hc
    have hk := hplain (Char.ofNat 0x212A)
    have hs := hplain (Char.ofNat 0x17F)
    simp only [String.reduceToList, List.mem_cons, List.not_mem_nil, or_false] at hc
    rcases hc with rfl | rfl | rfl | rfl
    · exact absurd (hk (by decide +kernel)) (by decide +kernel)
    · exact absurd (hs (by decide +kernel)) (by decide +kernel)
    · exact absurd (hk (by decide +kernel)) (by decide +kernel)
    · exact absurd (hs (by decide +kernel)) (by decide +kernel)
  · intro hc d hd
    obtain ⟨hsmall, hletters⟩ := lowerChar_ascii c.toNat h
    rw [Char.ofNat_toNat, toNat_lowerChar h] at hsmall hletters
    have hd128 : d.toNat < 128 := by
      obtain ⟨r, hr, hcovers, hfold⟩ | ⟨-, hfold⟩ := Unicode.fold_cases d.toNat
      · rw [hfold] at hd
        obtain ⟨hfirst, hlast, -⟩ := Unicode.FoldRule.covers_iff.1 hcovers
        rcases Unicode.rules_to_ascii r hr (by omega) with rfl | rfl | rfl
        · exact hlast.trans_lt (by decide)
        · have hs : d.toNat = 0x17F := Nat.le_antisymm hlast hfirst
          rw [← hd, hs] at hletters
          exact absurd (hletters (by decide)) hc
        · have hk : d.toNat = 0x212A := Nat.le_antisymm hlast hfirst
          rw [← hd, hk] at hletters
          exact absurd (hletters (by decide)) hc
      · rwa [← hfold, hd]
    have hlower : (lowerChar d).toNat = (lowerChar c).toNat := by
      rw [toNat_lowerChar hd128, toNat_lowerChar h, hd]
    exact Char.toNat_inj.1 hlower

end Text

namespace Pattern

/-! ## Literal lexemes -/

/-- The text of a lexeme that is a text or a separator. -/
def Lexeme.literal? : Lexeme → Option Text
  | .text value => some value
  | .pathSeparator => some ['/']
  | .variable _ | .wildcard _ | .regexp _ | .altStart | .altEnd | .altSeparator => none

/-- The text of lexemes that are all texts and separators. -/
def literal? : List Lexeme → Option Text
  | [] => some []
  | x :: xs => x.literal?.bind fun s => (literal? xs).map (s ++ ·)

theorem literal?_cons_eq_some {x : Lexeme} {xs : List Lexeme} {t : Text} :
    literal? (x :: xs) = some t ↔
      ∃ u v, x.literal? = some u ∧ literal? xs = some v ∧ t = u ++ v := by
  simp only [literal?, Option.bind_eq_some_iff, Option.map_eq_some_iff]
  constructor
  · rintro ⟨u, hu, v, hv, rfl⟩
    exact ⟨u, v, hu, hv, rfl⟩
  · rintro ⟨u, v, hu, hv, rfl⟩
    exact ⟨u, hu, v, hv, rfl⟩

theorem literal?_append_eq_some {xs ys : List Lexeme} {t : Text} :
    literal? (xs ++ ys) = some t ↔
      ∃ u v, literal? xs = some u ∧ literal? ys = some v ∧ t = u ++ v := by
  induction xs generalizing t with
  | nil => simp [literal?]
  | cons x xs ih =>
    simp only [List.cons_append, literal?_cons_eq_some, ih]
    constructor
    · rintro ⟨s, _, hs, ⟨u, v, hu, hv, rfl⟩, rfl⟩
      exact ⟨s ++ u, v, ⟨s, u, hs, hu, rfl⟩, hv, (List.append_assoc ..).symm⟩
    · rintro ⟨_, v, ⟨s, u, hs, hu, rfl⟩, hv, rfl⟩
      exact ⟨s, u ++ v, hs, ⟨u, v, hu, hv, rfl⟩, List.append_assoc ..⟩

/-! ## Spellings -/

section
variable {cs : Bool}

theorem spellings_nil : spellings cs [] = 1 :=
  Language.ext fun _ => List.forall₂_nil_left_iff

theorem spellings_slash : spellings cs ['/'] = {['/']} := by
  rw [Ways.spellings_cons, spellings_nil, mul_one]
  ext t
  constructor
  · rintro ⟨c, hc, rfl⟩
    rw [Lowers.sameChar_slash, decide_eq_true_iff] at hc
    rw [← hc]
    rfl
  · rintro rfl
    exact ⟨'/', Lowers.sameChar_slash _ ▸ rfl, rfl⟩

theorem spellings_append (u v : Text) :
    spellings cs (u ++ v) = spellings cs u * spellings cs v := by
  induction u with
  | nil => rw [List.nil_append, spellings_nil, one_mul]
  | cons c u ih => rw [List.cons_append, Ways.spellings_cons, Ways.spellings_cons, ih, mul_assoc]

theorem mem_spellings_false {t u : Text} :
    u ∈ spellings false t ↔ Text.folded u = Text.folded t := by
  have hsame : u ∈ spellings false t ↔
      List.Forall₂ (fun c d : Char => Unicode.fold c.toNat = Unicode.fold d.toNat) t u := by
    change List.Forall₂ _ _ _ ↔ _
    simp [Ways.sameChar]
  rw [hsame, Text.folded, Text.folded, eq_comm, ← List.forall₂_eq_eq_eq,
    List.forall₂_map_left_iff, List.forall₂_map_right_iff]

end

/-! ## Trees of literal lexemes -/

namespace Node

/-- Trees one after the other that have neither variables nor alternations nor raw regular
    expressions, and stand for the spellings of a text. -/
structure LiteralTrees (ns : List Node) (L : Bool → Language Char) (t : Text) : Prop where
  altFree : allAltFree ns
  rawFree : allRawFree ns
  names : namesOf ns = []
  language : ∀ cs, L cs = spellings cs t

/-- A single tree of that kind. -/
structure LiteralTree (n : Node) (t : Text) : Prop where
  altFree : n.altFree
  rawFree : n.rawFree
  names : n.variableNames = []
  language : ∀ cs, n.language cs = spellings cs t

theorem LiteralTrees.nil (between : Bool → Language Char) :
    LiteralTrees [] (fun cs => languageOf cs (between cs) []) [] :=
  ⟨rfl, rfl, rfl, fun _ => spellings_nil.symm⟩

theorem LiteralTree.single {n : Node} {t : Text} (h : LiteralTree n t)
    (between : Bool → Language Char) :
    LiteralTrees [n] (fun cs => languageOf cs (between cs) [n]) t where
  altFree := by rw [allAltFree, h.altFree]; rfl
  rawFree := by rw [allRawFree, h.rawFree]; rfl
  names := by rw [namesOf, h.names]; rfl
  language := h.language

theorem LiteralTree.cons {n m : Node} {ns : List Node} {s t u : Text}
    {between : Bool → Language Char} (h : LiteralTree n t)
    (hb : ∀ cs, between cs = spellings cs s)
    (hns : LiteralTrees (m :: ns) (fun cs => languageOf cs (between cs) (m :: ns)) u) :
    LiteralTrees (n :: m :: ns) (fun cs => languageOf cs (between cs) (n :: m :: ns))
      (t ++ s ++ u) where
  altFree := by rw [allAltFree, h.altFree, hns.altFree]; rfl
  rawFree := by rw [allRawFree, h.rawFree, hns.rawFree]; rfl
  names := by rw [namesOf, h.names, hns.names]; rfl
  language cs := by
    rw [languageOf, h.language cs, hns.language cs, hb cs, spellings_append, spellings_append]

theorem LiteralTrees.path {span : Span} {absolute : Bool} {ns : List Node} {t : Text}
    (h : LiteralTrees ns (fun cs => languageOf cs {['/']} ns) t) :
    LiteralTree (.path span absolute ns) ((if absolute then ['/'] else []) ++ t) where
  altFree := h.altFree
  rawFree := h.rawFree
  names := h.names
  language cs := by
    rw [Node.language, h.language cs, spellings_append]
    cases absolute with
    | true => rw [if_pos rfl, if_pos rfl, spellings_slash]
    | false => rw [if_neg Bool.false_ne_true, if_neg Bool.false_ne_true, spellings_nil]

mutual

/-- **Literal trees.** A tree of texts and separators stands for the spellings of their
    text. -/
theorem literalTree : ∀ (n : Node) {t : Text}, literal? n.flatten = some t → LiteralTree n t
  | .path _ absolute ns, t, h => by
    rw [flatten, literal?_append_eq_some] at h
    obtain ⟨u, v, hu, hv, rfl⟩ := h
    have hslash : u = if absolute then ['/'] else [] := by
      cases absolute <;> exact (Option.some.inj hu).symm
    rw [hslash]
    exact (literalSegments ns hv).path
  | .segment _ ns, t, h => by
    have hitems := literalItems ns h
    exact ⟨hitems.altFree, hitems.rawFree, hitems.names, hitems.language⟩
  | .text _ value, t, h => by
    obtain ⟨u, v, hu, hv, rfl⟩ := literal?_cons_eq_some.1 h
    cases hu
    cases hv
    rw [List.append_nil]
    exact ⟨rfl, rfl, rfl, fun _ => rfl⟩
  | .alternation .., _, h | .variable _ _ (some _), _, h | .variable _ _ none, _, h
  | .wildcard .., _, h | .regexp .., _, h => nomatch h

theorem literalItems : ∀ (ns : List Node) {t : Text}, literal? (flattenAll ns) = some t →
    LiteralTrees ns (fun cs => languageOf cs 1 ns) t
  | [], t, h => by
    cases h
    exact .nil _
  | [n], t, h => by
    rw [flattenAll, flattenAll, List.append_nil] at h
    exact (literalTree n h).single _
  | n :: m :: ns, t, h => by
    rw [flattenAll, literal?_append_eq_some] at h
    obtain ⟨u, v, hu, hv, rfl⟩ := h
    have hcons := (literalTree n hu).cons (fun _ => spellings_nil.symm) (literalItems (m :: ns) hv)
    rwa [List.append_nil] at hcons

theorem literalSegments : ∀ (ns : List Node) {t : Text},
    literal? (flattenWith .pathSeparator ns) = some t →
      LiteralTrees ns (fun cs => languageOf cs {['/']} ns) t
  | [], t, h => by
    cases h
    exact .nil _
  | [n], t, h => (literalTree n h).single _
  | n :: m :: ns, t, h => by
    rw [flattenWith, literal?_append_eq_some] at h
    obtain ⟨u, w, hu, hw, rfl⟩ := h
    obtain ⟨s, v, hs, hv, rfl⟩ := literal?_cons_eq_some.1 hw
    cases hs
    rw [← List.append_assoc]
    exact (literalTree n hu).cons (fun _ => spellings_slash.symm) (literalSegments (m :: ns) hv)

end

end Node

end Pattern

/-! ## Routes -/

open Pattern

namespace RoutePattern

variable {pattern literal : Text} {cs : Bool} {p : RoutePattern}

/-- A pattern of texts and separators matches as a whole what is spelled as its text, and
    binds nothing. -/
theorem match?_literal (hl : literal? ((tokens pattern).1.map Token.lexeme) = some literal)
    (hp : ofText pattern { caseSensitive := cs } = .ok p) (path : Text) :
    ((∃ m, p.match? path = some m ∧ m.consumed = Text.utf8Length path) ↔
      path ∈ spellings cs literal) ∧
      ∀ m, p.match? path = some m → m.bindings = .empty := by
  obtain ⟨root, hroot, hcompile⟩ := bind_eq_ok.1 hp
  obtain ⟨m, hm, hdone⟩ := bind_eq_ok.1 hcompile
  rw [← flatten_of_parse hroot] at hl
  have hw := parse_wellFormed hroot
  have htree := root.literalTree hl
  constructor
  · have hagrees : m.Agrees (root.ways cs) := by
      have hm : compilePattern pattern { caseSensitive := cs } = .ok m := by
        rw [compilePattern_of_parse hroot, hm]
      rw [eq_of_compilePattern hroot htree.rawFree hm]
      exact Node.compiled_agrees hw htree.rawFree (Node.shares_of_altFree root 0 htree.altFree) _
    cases hdone
    rw [← htree.language cs, ← Node.matches_all_iff hagrees hw htree.rawFree htree.altFree]
    rfl
  · intro r hr
    rw [match?_ofText hp hroot htree.rawFree, htree.names] at hr
    obtain ⟨y, -, rfl⟩ := Option.map_eq_some_iff.1 hr
    rfl

end RoutePattern

namespace RouteTree

variable {R C : Type} {pattern literal : Text} {answer : Bindings → C → R} {t : RouteTree R C}

theorem resolve_of_literal (hl : literal? ((tokens pattern).1.map Token.lexeme) = some literal)
    (ht : ofPattern pattern {} answer = .ok t) (path : Text) (context : C) (b : Bindings) :
    t.resolve path context b =
      if Text.folded path = Text.folded literal then some ⟨answer b context, b⟩ else none := by
  obtain ⟨p, hp, rfl⟩ := ofPattern_eq_ok.1 ht
  obtain ⟨hiff, hempty⟩ := @RoutePattern.match?_literal _ _ false _ hl hp path
  rw [mem_spellings_false] at hiff
  rw [resolve_route]
  split
  case isTrue h =>
    obtain ⟨m, hm, hc⟩ := hiff.2 h
    rw [hm, Option.bind_some, if_pos hc, hempty m hm]
    rfl
  case isFalse h =>
    rw [Option.bind_eq_none_iff]
    exact fun m hm => if_neg fun hc => h (hiff.1 ⟨m, hm, hc⟩)

/-- **Literal routes.** A route whose pattern has only texts and separators answers the
    paths with the folded form of its text, and binds nothing. So it answers whatever
    differs from that text in the case of Latin letters only; it answers nothing else
    exactly if all characters of the text allow for it, as do the first 128 but for the
    letters k and s. -/
theorem resolve_literal (hl : literal? ((tokens pattern).1.map Token.lexeme) = some literal)
    (ht : ofPattern pattern {} answer = .ok t) (context : C) (b : Bindings) :
    (∀ path, t.resolve path context b =
      if Text.folded path = Text.folded literal then some ⟨answer b context, b⟩ else none) ∧
    (∀ path, Text.lower path = Text.lower literal → (t.resolve path context b).isSome) ∧
    ((∀ path, (t.resolve path context b).isSome ↔ Text.lower path = Text.lower literal) ↔
      ∀ c ∈ literal, Text.IsPlainCase c) ∧
    ((∀ c ∈ literal, c.toNat < 128) →
      ((∀ path, (t.resolve path context b).isSome ↔ Text.lower path = Text.lower literal) ↔
        ∀ c ∈ literal, c ∉ "KSks".toList)) := by
  have hresolve := fun path => resolve_of_literal hl ht path context b
  have hsome : ∀ path, (t.resolve path context b).isSome ↔
      Text.folded path = Text.folded literal := by
    intro path
    rw [hresolve path]
    split <;> simp_all
  have hlower : ∀ path, Text.lower path = Text.lower literal →
      (t.resolve path context b).isSome :=
    fun path h => (hsome path).2 (Text.folded_eq_of_lower_eq h)
  have hexact : (∀ path, (t.resolve path context b).isSome ↔
      Text.lower path = Text.lower literal) ↔ ∀ c ∈ literal, Text.IsPlainCase c := by
    rw [← Text.lower_eq_of_folded_eq_iff]
    refine forall_congr' fun path => ?_
    rw [← hsome path]
    exact ⟨fun h => h.1, fun h => ⟨h, hlower path⟩⟩
  refine ⟨hresolve, hlower, hexact, fun hascii => ?_⟩
  rw [hexact]
  exact forall₂_congr fun c hc => Text.isPlainCase_iff (hascii c hc)

/-- Bare and quoted text without the letters k and s. -/
theorem resolve_literal_quoted :
    ∃ t : RouteTree Unit Unit, ofPattern "/Page/\"a:b\"".toList {} (fun _ _ => ()) = .ok t ∧
      (∀ path, (t.resolve path () .empty).isSome ↔
        Text.lower path = Text.lower "/Page/a:b".toList) ∧
      (t.resolve "/pAGE/A:b".toList () .empty).isSome := by
  have hok : (ofPattern "/Page/\"a:b\"".toList {} fun _ _ => () :
      Except PatternError (RouteTree Unit Unit)).isOk := by
    decide +kernel
  obtain ⟨t, ht⟩ := exists_of_isOk hok
  have hl : literal? ((tokens "/Page/\"a:b\"".toList).1.map Token.lexeme) =
      some "/Page/a:b".toList := by decide
  have hchars : ∀ c ∈ "/Page/a:b".toList, c.toNat < 128 ∧ c ∉ "KSks".toList :=
    List.forall_iff_forall_mem.1 (by decide)
  obtain ⟨-, hlower, -, hascii⟩ := resolve_literal hl ht () .empty
  exact ⟨t, ht, (hascii fun c hc => (hchars c hc).1).2 fun c hc => (hchars c hc).2,
    hlower _ (by decide)⟩

/-- The Kelvin sign is no Latin letter, but it is taken for a `k`. -/
theorem resolve_literal_kelvin :
    ∃ t : RouteTree Unit Unit, ofPattern "k".toList {} (fun _ _ => ()) = .ok t ∧
      literal? ((tokens "k".toList).1.map Token.lexeme) = some "k".toList ∧
      (t.resolve [Char.ofNat 0x212A] () .empty).isSome ∧
      Text.lower [Char.ofNat 0x212A] ≠ Text.lower "k".toList := by
  have h : ((ofPattern "k".toList {} fun _ _ => ()).toOption.map fun t : RouteTree Unit Unit =>
      (t.resolve [Char.ofNat 0x212A] () .empty).isSome) = some true := by
    decide +kernel
  obtain ⟨t, ht, hresolve⟩ := Option.map_eq_some_iff.1 h
  exact ⟨t, eq_ok_of_toOption ht, by decide, hresolve, by decide⟩

end RouteTree

end PathRouting
