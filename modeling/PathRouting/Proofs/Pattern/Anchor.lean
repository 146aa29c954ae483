/-
  Where the matches of a compiled pattern start.

  The text of a matcher is anchored by a `^` in front of the group that its source
  stands in. A raw regular expression may close that group, and a `|` behind it
  starts an alternative to which the `^` does not belong.

  * `captures_start_iff`: all matches start at the start of the text exactly if the
    alternatives behind the first one match nowhere else, unless there is a match
    at the start too.
  * `compilePattern_start_iff`: so it is for every compiled pattern.
-/
import PathRouting.Proofs.Pattern.Slots
import PathRouting.Proofs.Regex.Outermost
import PathRouting.Proofs.Route.Chain

namespace PathRouting

/-! ## Lengths in bytes -/

namespace Text

theorem utf8Length_eq_zero {t : Text} : utf8Length t = 0 ↔ t = [] := by
  cases t with
  | nil => exact iff_of_true rfl rfl
  | cons c t =>
    have := c.utf8Size_pos
    exact iff_of_false (by rw [utf8Length]; omega) (by simp)

theorem take_eq_self {t : Text} {n : ℕ} (h : utf8Length (t.take n) = utf8Length t) :
    t.take n = t := by
  have ht := utf8Length_append (t.take n) (t.drop n)
  rw [List.take_append_drop] at ht
  have hd := utf8Length_eq_zero.1 (show utf8Length (t.drop n) = 0 by omega)
  rw [← List.append_nil (t.take n), ← hd, List.take_append_drop]

end Text

namespace Regex

/-! ## The start of a match -/

theorem exists_captures {r : Regex} {t : Text} {n : ℕ} (h : r.expr.MatchesFrom t n) :
    ∃ c, r.captures t = some c := by
  obtain ⟨p, y, hp, -, h⟩ := h
  cases hs : r.expr.search t with
  | none => exact absurd h (search_eq_none_iff.1 hs p hp [] y)
  | some m => exact ⟨_, by rw [captures, hs]; rfl⟩

theorem captures_eq_some {r : Regex} {t : Text} {c : Captures} (h : r.captures t = some c) :
    c.text = t ∧ r.expr.MatchesFrom t c.start ∧ ∀ n < c.start, ¬r.expr.MatchesFrom t n := by
  obtain ⟨m, hm, rfl⟩ := Option.map_eq_some_iff.1 h
  obtain ⟨p, q, hp, hpos, hmatch, -, hfirst⟩ := search_eq_some hm
  refine ⟨rfl, ⟨p, _, hp, hpos, hmatch⟩, ?_⟩
  rintro _ hn ⟨p', y, hp', rfl, h⟩
  exact hfirst p' hp' (hpos ▸ hn) [] y h

/-- Of two alternatives the first of which matches at the start of a text only, all
    matches start there, exactly if wherever another one matches further on, there
    is a match at the start too. -/
theorem captures_start_iff {r : Regex} {first : Expr} {others : List Expr}
    (hr : ∀ x y, r.expr.Matches x y ↔ ∃ b ∈ first :: others, b.Matches x y)
    (hf : first.AtStart) :
    (∀ t c, r.captures t = some c → c.start = 0) ↔
      ∀ t, ∀ b ∈ others, ∀ n > 0, b.MatchesFrom t n →
        ∃ b ∈ first :: others, b.MatchesFrom t 0 := by
  have hm : ∀ t n, r.expr.MatchesFrom t n ↔ ∃ b ∈ first :: others, b.MatchesFrom t n := by
    intro t n
    constructor
    · rintro ⟨p, y, hp, hn, h⟩
      obtain ⟨b, hb, h⟩ := (hr _ _).1 h
      exact ⟨b, hb, p, y, hp, hn, h⟩
    · rintro ⟨b, hb, p, y, hp, hn, h⟩
      exact ⟨p, y, hp, hn, (hr _ _).2 ⟨b, hb, h⟩⟩
  constructor
  · intro h t b hb n _ hbn
    obtain ⟨c, hc⟩ := exists_captures ((hm t n).2 ⟨b, by simp [hb], hbn⟩)
    have hstart := (captures_eq_some hc).2.1
    rw [h t c hc] at hstart
    exact (hm t 0).1 hstart
  · intro h t c hc
    obtain ⟨-, hstart, hnone⟩ := captures_eq_some hc
    by_contra hne
    obtain ⟨b, hb, hbn⟩ := (hm t _).1 hstart
    rcases List.mem_cons.1 hb with rfl | hb
    · exact hne (hf.eq_zero hbn)
    · exact hnone 0 (Nat.pos_of_ne_zero hne)
        ((hm t 0).2 (h t b hb c.start (Nat.pos_of_ne_zero hne) hbn))

/-- The length up to the end of a match that starts at the start of the text is
    that of the matched text. -/
theorem Captures.consumed_eq {c : Captures} (h : c.start = 0) :
    c.consumed = Text.utf8Length (c.text.slice c.start c.stop) := by
  rw [h]
  rfl

end Regex

namespace Pattern

/-- **The start of a match.** A compiled pattern has all of its matches at the
    start of the text exactly if no alternative outside the anchored group has a match
    further on in a text that has none at its start. Then the length that a match
    reports is that of the matched text, and a route with that pattern resolves
    whole paths only. -/
theorem compilePattern_start_iff {pattern : Text} {o : Options} {m : Matcher}
    (h : compilePattern pattern o = .ok m) :
    ∃ first others,
      Regex.alternatives { caseInsensitive := !o.caseSensitive } m.regex.source =
        .ok (first :: others) ∧
      ((∀ t c, m.regex.captures t = some c → c.start = 0 ∧
          c.consumed = Text.utf8Length (t.slice c.start c.stop)) ↔
        ∀ t, ∀ b ∈ others, ∀ n > 0, b.MatchesFrom t n →
          ∃ b ∈ first :: others, b.MatchesFrom t 0) ∧
      ((∀ t c, m.regex.captures t = some c → c.start = 0) →
        ∀ {R C : Type} (p : RoutePattern) (answer : Bindings → C → R) path context b r,
          p.matcher = m → (RouteTree.route p answer).resolve path context b = some r →
          ∃ c, m.regex.captures path = some c ∧ c.group? 0 = some path) := by
  obtain ⟨root, -, h⟩ := bind_eq_ok.1 h
  obtain ⟨hr, -, -⟩ := compile_eq_ok h
  obtain ⟨hsource, hread, -⟩ := regex_compile_eq_ok hr
  rw [Matcher.anchored, List.append_assoc] at hread
  obtain ⟨first, others, halt, hfirst⟩ := Regex.alternatives_of_anchored rfl rfl hread
  obtain ⟨bs, hbs, hmatches⟩ := Regex.alternatives_of_read hread
  rw [halt] at hbs
  cases hbs
  refine ⟨first, others, ?_, ?_, ?_⟩
  · rw [hsource, Matcher.anchored, List.append_assoc]
    exact halt
  · rw [← Regex.captures_start_iff hmatches hfirst]
    refine ⟨fun h t c hc => (h t c hc).1, fun h t c hc => ⟨h t c hc, ?_⟩⟩
    rw [← (Regex.captures_eq_some hc).1]
    exact Regex.Captures.consumed_eq (h t c hc)
  · rintro hstart R C p answer path context b r rfl hres
    rw [RouteTree.resolve_route, Option.bind_eq_some_iff] at hres
    obtain ⟨f, hf, hres⟩ := hres
    split_ifs at hres with hlen
    obtain ⟨c, hc, rfl⟩ := Option.map_eq_some_iff.1 hf
    refine ⟨c, hc, ?_⟩
    obtain ⟨rfl, -, -⟩ := Regex.captures_eq_some hc
    have htake := Text.take_eq_self hlen
    rw [Regex.Captures.group?, Regex.Captures.span?, if_pos rfl, hstart _ c hc]
    exact congrArg some htake

/-- A raw choice stays inside the anchored group. -/
theorem compilePattern_start_raw_choice :
    ∃ m, compilePattern "(a|b)".toList { caseSensitive := true } = .ok m ∧
      ∀ t c, m.regex.captures t = some c → c.start = 0 ∧
        c.consumed = Text.utf8Length (t.slice c.start c.stop) := by
  have hs : ((compilePattern "(a|b)".toList { caseSensitive := true }).toOption.map fun m =>
      m.regex.source) = some "^(?:(?:a|b))".toList := by
    decide +kernel
  obtain ⟨m, hm, hs⟩ := Option.map_eq_some_iff.1 hs
  replace hm := eq_ok_of_toOption hm
  obtain ⟨first, others, halt, hiff, -⟩ := compilePattern_start_iff hm
  have hn : ((Regex.alternatives { caseInsensitive := !true } "^(?:(?:a|b))".toList).toOption.map
      List.length) = some 1 := by
    decide +kernel
  rw [hs] at halt
  rw [halt] at hn
  have ho : others = [] := List.length_eq_zero_iff.1 (Nat.succ.inj (Option.some.inj hn))
  refine ⟨m, hm, hiff.2 fun t b hb => ?_⟩
  rw [ho] at hb
  cases hb

/-- A raw regular expression that closes the group of the whole source: the `^`
    belongs to the first alternative only. The match reported for `ax))` is `x))`,
    with the length of the whole, so that a route would resolve. -/
theorem compilePattern_late_start :
    ∃ m c, compilePattern "([(?:][(?:]))|x(?:(?:[)][)])".toList { caseSensitive := true } = .ok m ∧
      m.regex.captures "ax))".toList = some c ∧ c.start = 1 ∧ c.group? 0 = some "x))".toList ∧
      c.consumed = Text.utf8Length "ax))".toList := by
  have h : ((compilePattern "([(?:][(?:]))|x(?:(?:[)][)])".toList
      { caseSensitive := true }).toOption.bind fun m =>
        (m.regex.captures "ax))".toList).map fun c => (c.start, c.group? 0, c.consumed)) =
      some (1, some "x))".toList, Text.utf8Length "ax))".toList) := by
    decide +kernel
  obtain ⟨m, hm, h⟩ := Option.bind_eq_some_iff.1 h
  obtain ⟨c, hc, h⟩ := Option.map_eq_some_iff.1 h
  obtain ⟨h1, h⟩ := Prod.mk.inj h
  obtain ⟨h2, h3⟩ := Prod.mk.inj h
  exact ⟨m, c, eq_ok_of_toOption hm, hc, h1, h2, h3⟩

end Pattern

end PathRouting
