/-
  The tokens of a pattern cover what was read of it.

  * `Covers`: tokens stand one behind the other, what stands at each of them is its source,
    as far as it goes, and there is only white space between them.
  * `Withheld`: the text that a scan does not deliver when it is stuck.
  * `tokens_cover`: with that text, the tokens of a pattern cover the part that was read, which
    ends where a scan is stuck, or else is all of it. They are the tokens of that part alone.
-/
import PathRouting.Proofs.Pattern.Scanning

namespace PathRouting.Pattern

open Scanner

/-- Tokens cover a pattern up to an offset. -/
structure Covers (p : Text) (ts : List Token) (stop : ℕ) : Prop where
  inside : ∀ t ∈ ts, t.span.start < t.span.stop ∧ t.span.stop ≤ stop
  ordered : ts.Pairwise fun t t' => t.span.stop ≤ t'.span.start
  sources : ∀ t ∈ ts, ∀ lexeme : Lexeme,
    lexeme.Written (p.slice t.span.start t.span.stop) ↔ lexeme = t.lexeme
  longest : ∀ t ∈ ts, ∀ c ∈ p[t.span.stop]?, goesOn (p.slice t.span.start t.span.stop) c = false
  gaps : ∀ i c, i < stop → p[i]? = some c →
    (∀ t ∈ ts, i < t.span.start ∨ t.span.stop ≤ i) → isSpace c

/-- What a scan that read so many characters does not deliver: nothing, or the bare text in
    front of the place where it is stuck. -/
inductive Withheld (p : Text) (consumed : ℕ) : List Token → Prop
  | nothing : Withheld p consumed []
  | bare {start : ℕ} : consumed < p.length → (∀ c ∈ p.slice start consumed, isBare c) →
    Withheld p consumed [⟨.text (p.slice start consumed), ⟨start, consumed⟩⟩]

namespace Cut

variable {n m : ℕ} {u v : Text} {ts : List Token}

theorem le (h : Cut n u ts m v) : n ≤ m := by
  obtain ⟨x, -, rfl⟩ := h.eq_append
  omega

/-- The tokens of a cut stand between its beginning and its end. -/
theorem within (h : Cut n u ts m v) {t : Token} (ht : t ∈ ts) :
    n ≤ t.span.start ∧ t.span.start < t.span.stop ∧ t.span.stop ≤ m := by
  induction h with
  | done => cases ht
  | space _ _ ih =>
    have := ih ht
    omega
  | token hl _ hrest ih =>
    have hpos := hl.length_pos
    have hle := hrest.le
    rcases List.mem_cons.1 ht with rfl | ht
    · dsimp only
      omega
    · have := ih ht
      omega

theorem ordered (h : Cut n u ts m v) : ts.Pairwise fun t t' => t.span.stop ≤ t'.span.start := by
  induction h with
  | done => exact .nil
  | space _ _ ih => exact ih
  | token _ _ hrest ih => exact .cons (fun t ht => (hrest.within ht).1) ih

/-- At a token of a cut stands its source, as far as it goes. -/
theorem source (h : Cut n u ts m v) {t : Token} (ht : t ∈ ts) :
    ∃ x a y, u = x ++ (a ++ y) ∧ t.span = ⟨n + x.length, n + x.length + a.length⟩ ∧
      t.lexeme.Written a ∧ ∀ c ∈ y.head?, goesOn a c = false := by
  induction h with
  | done => cases ht
  | @space n m c u v ts _ _ ih =>
    obtain ⟨x, a, y, rfl, hspan, ha⟩ := ih ht
    exact ⟨c :: x, a, y, rfl, by rw [hspan, List.length_cons, Nat.add_assoc n, Nat.add_comm 1], ha⟩
  | @token n m lexeme b u v ts hl hb _ ih =>
    rcases List.mem_cons.1 ht with rfl | ht
    · exact ⟨[], b, u, rfl, rfl, hl, hb.apart⟩
    · obtain ⟨x, a, y, rfl, hspan, ha⟩ := ih ht
      refine ⟨b ++ x, a, y, (List.append_assoc ..).symm, ?_, ha⟩
      rw [hspan, List.length_append, Nat.add_assoc n]

/-- Outside of the tokens of a cut there is white space. -/
theorem gaps (h : Cut n u ts m v) {i : ℕ} {c : Char} (hc : u[i]? = some c) (hi : n + i < m)
    (hout : ∀ t ∈ ts, n + i < t.span.start ∨ t.span.stop ≤ n + i) : isSpace c := by
  induction h generalizing i with
  | done => omega
  | space hs _ ih =>
    cases i with
    | zero =>
      cases hc
      exact hs
    | succ i =>
      rw [Nat.add_comm i, ← Nat.add_assoc] at hi hout
      exact ih hc hi hout
  | @token n m lexeme a u v ts _ _ hrest ih =>
    obtain ⟨hfirst, hout⟩ := List.forall_mem_cons.1 hout
    dsimp only at hfirst
    obtain ⟨j, rfl⟩ := Nat.exists_eq_add_of_le (show a.length ≤ i by omega)
    rw [List.getElem?_append_right (by omega), Nat.add_sub_cancel_left] at hc
    rw [← Nat.add_assoc] at hi hout
    exact ih hc hi hout

/-- **Covering.** The tokens of a cut cover what is cut, if what follows goes on with none. -/
theorem covers (h : Cut 0 u ts m []) (hv : ∀ c ∈ v.head?, ∀ a, goesOn a c = false) :
    Covers (u ++ v) ts m := by
  obtain ⟨x, hx, hm⟩ := h.eq_append
  rw [List.append_nil] at hx
  rw [Nat.zero_add] at hm
  subst hx
  have hat : ∀ t ∈ ts, ∃ a y, Text.slice (u ++ v) t.span.start t.span.stop = a ∧
      (u ++ v)[t.span.stop]? = (y ++ v).head? ∧ t.lexeme.Written a ∧
        ∀ c ∈ y.head?, goesOn a c = false := by
    intro t ht
    obtain ⟨x, a, y, rfl, hspan, ha⟩ := h.source ht
    refine ⟨a, y, ?_, ?_, ha⟩
    · rw [hspan, Text.slice, Nat.zero_add, List.append_assoc, List.append_assoc,
        List.take_length_add_append, List.take_left, List.drop_left]
    · rw [hspan, Nat.zero_add, List.append_assoc, List.append_assoc, List.head?_eq_getElem?,
        List.getElem?_append_right (Nat.le_add_right ..), Nat.add_sub_cancel_left,
        List.getElem?_append_right (Nat.le_refl _), Nat.sub_self]
  refine ⟨fun t ht => (h.within ht).2, h.ordered, fun t ht l => ?_, fun t ht c hc => ?_,
    fun i c hi hc hout => ?_⟩
  · obtain ⟨a, -, hslice, -, ha, -⟩ := hat t ht
    rw [hslice]
    constructor
    · intro hl
      exact hl.unique ha
    · rintro rfl
      exact ha
  · obtain ⟨a, y, hslice, hnext, -, hy⟩ := hat t ht
    rw [hslice]
    rw [hnext, List.head?_append] at hc
    rcases Option.or_eq_some_iff.1 hc with hc | ⟨-, hc⟩
    · exact hy c hc
    · exact hv c hc a
  · rw [List.getElem?_append_left (by omega)] at hc
    exact h.gaps hc (by omega) (by simpa using hout)

/-- The bare text behind a cut without what follows it. -/
theorem keep {a w : Text} (h : Cut n u ts m (a ++ w)) (ha : ∀ c ∈ a, isBare c) :
    ∃ x, u = x ++ (a ++ w) ∧ m = n + x.length ∧ Cut n (x ++ a) ts m a := by
  have hfree : ¬Stuck a := by
    cases a with
    | nil => exact fun h => nomatch h
    | cons c a => exact not_stuck_of_isBare (ha c List.mem_cons_self) a
  have hhead : ∀ c ∈ a.head?, (∀ b, goesOn b c = false) ∨ (a ++ w).head? = some c := by
    intro c hc
    rw [List.head?_append, Option.mem_def.1 hc]
    exact .inr rfl
  obtain ⟨x, rfl, hcut⟩ := h.replace hfree hhead
  obtain ⟨y, hy, hm⟩ := hcut.eq_append
  obtain rfl := List.append_cancel_right hy
  exact ⟨x, rfl, hm, hcut⟩

/-- Bare text alone is one token. -/
theorem of_bare {c : Char} {a : Text} (ha : ∀ d ∈ c :: a, isBare d) (n : ℕ) :
    Cut n (c :: a) [⟨.text (c :: a), ⟨n, n + (c :: a).length⟩⟩] (n + (c :: a).length) [] := by
  obtain ⟨hc, hu⟩ := List.forall_mem_cons.1 ha
  have hends : Ends (c :: a) [] := ⟨(fun _ h => nomatch h), fun _ h => nomatch h⟩
  have htoken := Cut.token (.bare hc hu) hends (.done (n := n + (c :: a).length))
  rwa [List.append_nil] at htoken

end Cut

/-- In front of a place where it is stuck, a scan does not deliver bare text. -/
theorem Stuck.scan_behind {a w : Text} (hw : Stuck w) (ha : ∀ c ∈ a, isBare c) (n : ℕ) :
    (between n none).scan (a ++ w) = ([], n + a.length) := by
  by_cases hne : a = []
  · subst hne
    exact scan_stuck hw
  · rw [scan_bare hne ha, scan_stuck hw]

/-- What was read of a pattern is cut into its tokens and what is withheld. -/
theorem cut_read (p : Text) : ∃ late, Withheld p (tokens p).2 late ∧
    Cut 0 (p.take (tokens p).2) ((tokens p).1 ++ late) (tokens p).2 [] ∧
    ((tokens p).2 < p.length ↔ Stuck (p.drop (tokens p).2)) := by
  obtain ⟨ts, m, v, hcut, rfl | ⟨a, w, rfl, ha, hw⟩⟩ := exists_cut 0 p
  · obtain ⟨x, hx, hm⟩ := hcut.eq_append
    have hlength : m = p.length := by rw [hx, List.append_nil, hm, Nat.zero_add]
    rw [hcut.tokens_eq, hlength, List.take_length, List.drop_length]
    refine ⟨[], .nothing, ?_, ?_⟩
    · rw [List.append_nil, ← hlength]
      exact hcut
    · exact ⟨fun h => absurd h (Nat.lt_irrefl _), fun h => nomatch h⟩
  · have htokens : tokens p = (ts, m + a.length) := by
      refine hcut.scan_eq.trans ?_
      rw [hw.scan_behind ha, before, List.append_nil]
    obtain ⟨x, rfl, hm, hfront⟩ := hcut.keep ha
    have hconsumed : m + a.length = (x ++ a).length := by
      rw [hm, Nat.zero_add, List.length_append]
    have hwpos : 0 < w.length := by
      cases hw <;> exact Nat.succ_pos _
    have htake : (x ++ (a ++ w)).take (m + a.length) = x ++ a := by
      rw [hconsumed, ← List.append_assoc, List.take_left]
    have hdrop : (x ++ (a ++ w)).drop (m + a.length) = w := by
      rw [hconsumed, ← List.append_assoc, List.drop_left]
    have hlt : m + a.length < (x ++ (a ++ w)).length := by
      rw [hconsumed]
      simp only [List.length_append]
      omega
    have hslice : (x ++ (a ++ w)).slice m (m + a.length) = a := by
      rw [Text.slice, htake, hm, Nat.zero_add, List.drop_left]
    rw [htokens, htake, hdrop]
    cases a with
    | nil => exact ⟨[], .nothing, by simpa using hfront, fun _ => hw, fun _ => hlt⟩
    | cons c a =>
      have hlate : Withheld (x ++ (c :: a ++ w)) (m + (c :: a).length) _ :=
        .bare hlt (by rwa [hslice])
      rw [hslice] at hlate
      exact ⟨_, hlate, hfront.append (.of_bare ha m), fun _ => hw, fun _ => hlt⟩

/-- **Tokens cover what was read.** A scan ends at the first place where it is stuck, or else at
    the end of the pattern. With the bare text that it withholds there, the tokens stand one
    behind the other, each of them at its source, as long as that can be, with only white space
    between them. What was read has these tokens also if it stands alone. -/
theorem tokens_cover (p : Text) :
    (tokens p).2 ≤ p.length ∧
      ((tokens p).2 < p.length ↔ Stuck (p.drop (tokens p).2)) ∧
      ∃ late, Withheld p (tokens p).2 late ∧
        Covers p ((tokens p).1 ++ late) (tokens p).2 ∧
        tokens (p.take (tokens p).2) = ((tokens p).1 ++ late, (tokens p).2) := by
  obtain ⟨late, hlate, hcut, hstuck⟩ := cut_read p
  have hrest : ∀ c ∈ (p.drop (tokens p).2).head?, ∀ a, goesOn a c = false := by
    intro c hc
    obtain ⟨w, hw⟩ := List.head?_eq_some_iff.1 hc
    have hlt : (tokens p).2 < p.length := by
      have hlength := congrArg List.length hw
      rw [List.length_drop, List.length_cons] at hlength
      omega
    have hs := hstuck.1 hlt
    rw [hw] at hs
    exact hs.not_goesOn
  have hcovers := hcut.covers hrest
  rw [List.take_append_drop] at hcovers
  exact ⟨consumed_le_length p, hstuck, late, hlate, hcovers, hcut.tokens_eq⟩

/-- In front of an open quote, bare text is withheld. -/
example : tokens "/ :a bc\x22d".toList =
      ([⟨.pathSeparator, ⟨0, 1⟩⟩, ⟨.variable ['a'], ⟨2, 4⟩⟩], 7) ∧
    tokens "/ :a bc".toList =
      ([⟨.pathSeparator, ⟨0, 1⟩⟩, ⟨.variable ['a'], ⟨2, 4⟩⟩, ⟨.text ['b', 'c'], ⟨5, 7⟩⟩], 7) := by
  decide

end PathRouting.Pattern
