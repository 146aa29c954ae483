/-
  White space between the tokens of a pattern.

  * `parse_of_bareTokens`: a pattern with the same tokens, apart from positions, has the same
    tree, apart from positions.
  * `Cut.insert_space`: white space at the start or at the end of a token moves what follows
    it.
  * `parse_insert_space`: it changes neither the tree, apart from positions, nor its source.
-/
import PathRouting.Proofs.Pattern.Composition
import PathRouting.Proofs.Pattern.Covering

namespace PathRouting.Pattern

/-- A pattern with the tokens of another one has the tree of that, apart from positions. -/
theorem parse_of_bareTokens {p q : Text} {a : Node} (h : parse p = .ok a)
    (hb : bareTokens q = bareTokens p) (hq : (tokens q).2 = q.length) :
    ∃ b, parse q = .ok b ∧ b.bare = a.bare := by
  obtain ⟨-, x, hx, -, rfl⟩ := feed_of_parse h
  have hp := Cursor.feed_bare .initial (tokens p).1
  have hread := Cursor.feed_bare .initial (tokens q).1
  rw [bareTokens, bareTokens] at hb
  rw [hb, hp, hx] at hread
  obtain ⟨⟨enclosing, y⟩, hy, hyx⟩ := Option.map_eq_some_iff.1 hread.symm
  obtain ⟨henclosing, hpath⟩ := Cursor.mk.inj hyx
  obtain rfl : enclosing = [] := List.map_eq_nil_iff.1 henclosing
  refine ⟨y.close, parse_of_feed (eq_ok_of_toOption hy) hq, ?_⟩
  rw [← y.close_bare, ← x.close_bare]
  exact congrArg OpenPath.close hpath

namespace Cut

variable {n m : ℕ} {u : Text} {ts : List Token}

/-- A pattern that is read to its end is cut into its tokens. -/
theorem of_tokens {p : Text} (h : (tokens p).2 = p.length) :
    Cut 0 p (tokens p).1 p.length [] := by
  obtain ⟨late, hlate, hcut, -⟩ := cut_read p
  cases hlate with
  | nothing => rwa [h, List.take_length, List.append_nil] at hcut
  | bare hlt => omega

/-- **White space** at the start or at the end of a token moves what follows it. -/
theorem insert_space (h : Cut n u ts m []) {t : Token} (ht : t ∈ ts) {k : ℕ}
    (hk : n + k = t.span.start ∨ n + k = t.span.stop) {space : Text} (hs : ∀ c ∈ space, isSpace c) :
    ∃ us rs, ts = us ++ rs ∧ Cut n (u.take k ++ space ++ u.drop k)
      (us ++ rs.map (·.shift space.length)) (m + space.length) [] := by
  obtain ⟨us, rs, x, rfl, hus, hrs⟩ := h.boundary ht hk
  obtain ⟨y, rfl, hy⟩ := hus.eq_append
  obtain rfl : k = y.length := Nat.add_left_cancel hy
  have hfree : ¬Stuck (space ++ x) := by
    cases space with
    | nil => exact hrs.not_stuck fun h => nomatch h
    | cons c space => exact not_stuck_of_isSpace (hs c List.mem_cons_self) _
  have hhead : ∀ c ∈ (space ++ x).head?, (∀ a, goesOn a c = false) ∨ x.head? = some c := by
    intro c hc
    cases space with
    | nil => exact .inr hc
    | cons d space =>
      cases hc
      exact .inl (not_goesOn_of_isSpace (hs _ List.mem_cons_self))
  obtain ⟨z, hz, hfront⟩ := hus.replace hfree hhead
  obtain rfl := List.append_cancel_right hz
  refine ⟨us, rs, rfl, ?_⟩
  rw [List.take_left, List.drop_left, List.append_assoc]
  exact hfront.append ((spaces hs _ x).append (hrs.shift space.length))

end Cut

/-- **White space between tokens is insignificant.** A pattern that has a tree has the same one,
    apart from positions, and of the same source whatever the options, with white space at the
    start or at the end of one of its tokens. -/
theorem parse_insert_space {p : Text} {a : Node} (h : parse p = .ok a) {t : Token}
    (ht : t ∈ (tokens p).1) {k : ℕ} (hk : k = t.span.start ∨ k = t.span.stop) {space : Text}
    (hs : ∀ c ∈ space, isSpace c) :
    ∃ b, parse (p.take k ++ space ++ p.drop k) = .ok b ∧ b.bare = a.bare ∧
      ∀ o, b.source o = a.source o := by
  obtain ⟨hlength, -⟩ := feed_of_parse h
  obtain ⟨us, rs, hts, hcut⟩ :=
    (Cut.of_tokens hlength).insert_space ht (by rwa [Nat.zero_add]) hs
  have htokens := hcut.tokens_eq
  have hbare : bareTokens (p.take k ++ space ++ p.drop k) = bareTokens p := by
    rw [bareTokens, bareTokens, htokens, hts, List.map_append, List.map_append, List.map_map]
    rfl
  have hread : (tokens (p.take k ++ space ++ p.drop k)).2 =
      (p.take k ++ space ++ p.drop k).length := by
    rw [htokens]
    simp only [List.length_append, List.length_take, List.length_drop]
    omega
  obtain ⟨b, hb, hba⟩ := parse_of_bareTokens h hbare hread
  exact ⟨b, hb, hba, fun o => Node.source_eq_of_bare hba o⟩

/-- White space in front of the wildcard that is the constraint of a variable. -/
theorem parse_insert_space_constraint : ∃ b, parse "/:a \t*".toList = .ok b ∧
    b.source {} = ⟨"/([^/?#]*)".toList, [⟨['a'], 1⟩], 1⟩ := by
  have hsource : ((parse "/:a*".toList).toOption.map (Node.source {})) =
      some ⟨"/([^/?#]*)".toList, [⟨['a'], 1⟩], 1⟩ := by decide
  obtain ⟨a, ha, hsource⟩ := Option.map_eq_some_iff.1 hsource
  have ht : ⟨.wildcard false, ⟨3, 4⟩⟩ ∈ (tokens "/:a*".toList).1 := by decide
  have hs : ∀ c ∈ [' ', '\t'], isSpace c := by simp [isSpace]
  obtain ⟨b, hb, -, hsame⟩ := parse_insert_space (eq_ok_of_toOption ha) ht (.inl rfl) hs
  exact ⟨b, hb, (hsame {}).trans hsource⟩

end PathRouting.Pattern
