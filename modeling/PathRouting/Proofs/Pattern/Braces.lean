/-
  Patterns as the branches of an alternation.

  * `Cursor.within`: an unfinished tree inside of open alternations. `Cursor.step_within`: a
    token does not meet those, unless it fails without them.
  * `parse_braces`: patterns between braces, with commas between any two, are read into an
    alternation of their trees.
-/
import PathRouting.Proofs.Pattern.Concatenation

namespace PathRouting.Pattern

/-- Patterns as the branches of an alternation. -/
def braces (ps : List Text) : Text :=
  '{' :: (Text.join [','] ps ++ ['}'])

/-! ## Inside of alternations -/

namespace Cursor

variable {c d : Cursor}

/-- An unfinished tree inside of open alternations. -/
def within (around : List OpenAlternation) (c : Cursor) : Cursor :=
  ⟨c.enclosing ++ around, c.path⟩

theorem step_within {t : Token} (h : c.step t = .ok d) (around : List OpenAlternation) :
    (c.within around).step t = .ok (d.within around) := by
  obtain ⟨enclosing, p⟩ := c
  obtain ⟨lexeme, span⟩ := t
  cases lexeme with
  | altSeparator | altEnd =>
    cases enclosing with
    | nil => cases h
    | cons a as => cases h; rfl
  | _ => cases h; rfl

theorem feed_within {ts : List Token} (h : feed step c ts = .ok d)
    (around : List OpenAlternation) :
    feed step (c.within around) ts = .ok (d.within around) := by
  induction ts generalizing c with
  | nil => cases h; rfl
  | cons t ts ih =>
    obtain ⟨c', hstep, hfeed⟩ := bind_eq_ok.1 h
    exact bind_eq_ok.2 ⟨c'.within around, step_within hstep around, ih hfeed⟩

end Cursor

/-! ## Branches -/

/-- The tokens of a pattern without their positions. -/
def bareTokens (p : Text) : List Token :=
  (tokens p).1.map Token.bare

theorem bareTokens_single {p : Text} {c : Char} {lexeme : Lexeme} (hp : (tokens p).2 = p.length)
    (hc : Scanner.Single c lexeme) (rest : Text) :
    bareTokens (p ++ c :: rest) = bareTokens p ++ ⟨lexeme, ⟨0, 0⟩⟩ :: bareTokens rest := by
  rw [bareTokens, tokens_single hp hc, List.map_append, List.map_cons, List.map_map]
  rfl

/-- In front of a pattern, a cursor inside of alternations finds the tree of the pattern. -/
theorem feed_branch {p : Text} {a : Node} (hp : parse p = .ok a) (around : List OpenAlternation) :
    ∃ x : OpenPath, feed Cursor.step ⟨around, .empty 0⟩ (bareTokens p) = .ok ⟨around, x⟩ ∧
      x.close = a.bare := by
  obtain ⟨-, x, hx, -, rfl⟩ := feed_of_parse hp
  have hbare := Cursor.feed_bare .initial (tokens p).1
  rw [hx] at hbare
  exact ⟨x.bare, Cursor.feed_within (eq_ok_of_toOption hbare) around, x.close_bare⟩

/-- The branches of an alternation behind some that are finished. -/
theorem feed_branches {ps : List Text} {as : List Node}
    (h : List.Forall₂ (fun p a => parse p = .ok a) ps as) (hne : ps ≠ []) (front : List Node) :
    (tokens (Text.join [','] ps ++ ['}'])).2 = (Text.join [','] ps ++ ['}']).length ∧
      feed Cursor.step ⟨[⟨.empty 0, 0, front⟩], .empty 0⟩
        (bareTokens (Text.join [','] ps ++ ['}'])) = .ok ⟨[], (OpenPath.empty 0).attach
          (.alternation ⟨0, 0⟩ (front.reverse ++ as.map Node.bare))⟩ := by
  induction h generalizing front with
  | nil => exact absurd rfl hne
  | @cons p a ps as hp hps ih =>
    obtain ⟨hlength, -⟩ := feed_of_parse hp
    obtain ⟨x, hx, hclose⟩ := feed_branch hp [⟨.empty 0, 0, front⟩]
    cases hps with
    | nil =>
      refine ⟨?_, ?_⟩
      · rw [Text.join, tokens_single hlength .altEnd, List.length_append]
        exact Nat.zero_add _
      · rw [Text.join, bareTokens_single hlength .altEnd, feed_append, hx]
        have hstep : Cursor.step ⟨[⟨.empty 0, 0, front⟩], x⟩ ⟨.altEnd, ⟨0, 0⟩⟩ =
            .ok ⟨[], (OpenPath.empty 0).attach
              (.alternation ⟨0, 0⟩ (x.close :: front).reverse)⟩ := rfl
        refine bind_eq_ok.2 ⟨_, rfl, bind_eq_ok.2 ⟨_, hstep, ?_⟩⟩
        rw [hclose, List.reverse_cons]
        rfl
    | @cons q b ps as hq hps =>
      obtain ⟨hrest, hfeed⟩ := ih (List.cons_ne_nil q ps) (a.bare :: front)
      have htext : Text.join [','] (p :: q :: ps) ++ ['}'] =
          p ++ ',' :: (Text.join [','] (q :: ps) ++ ['}']) := by
        rw [Text.join, List.append_assoc, List.append_assoc]
        · rfl
        · exact fun h => nomatch h
      rw [htext]
      refine ⟨?_, ?_⟩
      · rw [tokens_single hlength .altSeparator, List.length_append, List.length_cons]
        dsimp only
        omega
      · rw [bareTokens_single hlength .altSeparator, feed_append, hx]
        have hstep : Cursor.step ⟨[⟨.empty 0, 0, front⟩], x⟩ ⟨.altSeparator, ⟨0, 0⟩⟩ =
            .ok ⟨[⟨.empty 0, 0, x.close :: front⟩], .empty 0⟩ := rfl
        refine bind_eq_ok.2 ⟨_, rfl, bind_eq_ok.2 ⟨_, hstep, ?_⟩⟩
        rw [hclose, hfeed, List.reverse_cons, List.append_assoc]
        rfl

/-- **Alternations.** Patterns between braces are read into an alternation of their trees,
    apart from positions. -/
theorem parse_braces {ps : List Text} {as : List Node}
    (h : List.Forall₂ (fun p a => parse p = .ok a) ps as) (hne : ps ≠ []) :
    ∃ c, parse (braces ps) = .ok c ∧ c.bare =
      .path ⟨0, 0⟩ false [.segment ⟨0, 0⟩ [.alternation ⟨0, 0⟩ (as.map Node.bare)]] := by
  obtain ⟨hlength, hfeed⟩ := feed_branches h hne []
  have htokens : tokens (braces ps) = _ :=
    tokens_single (p := []) rfl .altStart (Text.join [','] ps ++ ['}'])
  have hbraces : bareTokens (braces ps) = _ :=
    bareTokens_single (p := []) rfl .altStart (Text.join [','] ps ++ ['}'])
  have hbare := Cursor.feed_bare .initial (tokens (braces ps)).1
  have hread : feed Cursor.step Cursor.initial.bare ((tokens (braces ps)).1.map Token.bare) =
      .ok ⟨[], (OpenPath.empty 0).attach (.alternation ⟨0, 0⟩ (as.map Node.bare))⟩ :=
    (congrArg (feed Cursor.step .initial) hbraces).trans hfeed
  rw [hread] at hbare
  obtain ⟨⟨enclosing, z⟩, hz, hzbare⟩ := Option.map_eq_some_iff.1 hbare.symm
  obtain ⟨henclosing, hpath⟩ := Cursor.mk.inj hzbare
  obtain rfl : enclosing = [] := List.map_eq_nil_iff.1 henclosing
  refine ⟨z.close, parse_of_feed (eq_ok_of_toOption hz) ?_, ?_⟩
  · rw [htokens, hlength]
    rfl
  · rw [← z.close_bare]
    exact congrArg OpenPath.close hpath

end PathRouting.Pattern
