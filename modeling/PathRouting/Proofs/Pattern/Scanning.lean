/-
  What a scan delivers.

  * `Scanner.scan_token`: between tokens, a scan reads the source of a token and delivers the
    text that waits and the token.
  * `Scanner.scan_stuck`: where it is stuck, a scan delivers nothing, and ends.
  * `Cut.scan_eq`: a scan delivers the tokens of a cut, and goes on behind it.
  * `exists_cut`: each text is cut up to its end, or up to where a scan is stuck, or up to bare
    text in front of that.
-/
import PathRouting.Proofs.Pattern.Cutting

namespace PathRouting.Pattern

namespace Scanner

/-- The tokens that a scan delivers of a text, and the offset at which it ends. -/
def scan (s : Scanner) (u : Text) : List Token × ℕ :=
  ((s.run u).1 ++ (s.run u).2.finish.1, (s.run u).2.finish.2)

/-- A scan between tokens, or in the bare text that waits. -/
def between (n : ℕ) (waiting : Option (ℕ × Text)) : Scanner :=
  ⟨n, n, waiting, .ready⟩

/-- Tokens in front of what a scan delivers. -/
def before (ts : List Token) (r : List Token × ℕ) : List Token × ℕ :=
  (ts ++ r.1, r.2)

variable {n k : ℕ} {waiting : Option (ℕ × Text)} {u v read : Text} {c mark : Char}

theorem before_before (ts us : List Token) (r : List Token × ℕ) :
    before ts (before us r) = before (ts ++ us) r := by
  rw [before, before, before, List.append_assoc]

theorem scan_cons (s : Scanner) (c : Char) (u : Text) :
    s.scan (c :: u) = before (s.step c).1 ((s.step c).2.scan u) := by
  rw [scan, run, before, scan, List.append_assoc]

/-- A character that completes no token. -/
theorem scan_cons_of_step {s s' : Scanner} (h : s.step c = ([], s')) (u : Text) :
    s.scan (c :: u) = s'.scan u := by
  rw [scan_cons, h]
  rfl

/-! ## Single characters -/

theorem step_space (hc : isSpace c) :
    (between n waiting).step c = ((between n waiting).flush n, between (n + 1) none) := by
  rcases isSpace_iff.1 hc with rfl | rfl | rfl | rfl <;> rfl

theorem step_quote (hc : isQuote c) :
    (between n waiting).step c = ([], ⟨n + 1, n, waiting, .quote c false []⟩) := by
  rcases isQuote_iff.1 hc with rfl | rfl <;> rfl

theorem step_bare (hc : isBare c) : (between n waiting).step c =
    ([], between (n + 1) (some ((waiting.getD (n, [])).1, c :: (waiting.getD (n, [])).2))) := by
  simp only [isBare, Bool.and_eq_true, Bool.not_eq_true', decide_eq_true_eq, List.mem_cons,
    List.not_mem_nil, or_false, not_or] at hc
  simp [step, between, openToken, hc]

theorem scan_quote_char (hm : c ≠ mark) (hb : c ≠ '\\') (k : ℕ) (read u : Text) :
    scan ⟨k, n, waiting, .quote mark false read⟩ (c :: u) =
      scan ⟨k + 1, n, waiting, .quote mark false (c :: read)⟩ u := by
  refine scan_cons_of_step ?_ u
  simp only [step, if_neg hm, if_neg hb]

theorem step_quote_escape (hmark : isQuote mark) (k : ℕ) (read : Text) :
    step ⟨k, n, waiting, .quote mark false read⟩ '\\' =
      ([], ⟨k + 1, n, waiting, .quote mark true read⟩) := by
  have hne : '\\' ≠ mark := by
    rintro rfl
    exact absurd hmark (by decide)
  simp only [step, if_neg hne, if_pos]

theorem scan_quote_escape (hmark : isQuote mark) (c : Char) (k : ℕ) (read u : Text) :
    scan ⟨k, n, waiting, .quote mark false read⟩ ('\\' :: c :: u) =
      scan ⟨k + 1 + 1, n, waiting, .quote mark false (c :: read)⟩ u :=
  (scan_cons_of_step (step_quote_escape hmark k read) _).trans (scan_cons_of_step rfl u)

theorem scan_regexp_char (hb : c ≠ '\\') (ho : c ≠ '(') (hc : c ≠ ')') (k d : ℕ) (read u : Text) :
    scan ⟨k, n, waiting, .regexp d false read⟩ (c :: u) =
      scan ⟨k + 1, n, waiting, .regexp d false (c :: read)⟩ u := by
  refine scan_cons_of_step ?_ u
  simp only [step, if_neg hc, if_neg ho, hb, decide_false]

theorem scan_regexp_escape (c : Char) (k d : ℕ) (read u : Text) :
    scan ⟨k, n, waiting, .regexp d false read⟩ ('\\' :: c :: u) =
      scan ⟨k + 1 + 1, n, waiting, .regexp d false (c :: '\\' :: read)⟩ u := by
  have hstep : step ⟨k, n, waiting, .regexp d false read⟩ '\\' =
      ([], ⟨k + 1, n, waiting, .regexp d true ('\\' :: read)⟩) := rfl
  exact (scan_cons_of_step hstep _).trans (scan_cons_of_step rfl u)

theorem scan_regexp_opening (k d : ℕ) (read u : Text) :
    scan ⟨k, n, waiting, .regexp d false read⟩ ('(' :: u) =
      scan ⟨k + 1, n, waiting, .regexp (d + 1) false ('(' :: read)⟩ u :=
  scan_cons_of_step rfl u

theorem scan_regexp_closing (k d : ℕ) (read u : Text) :
    scan ⟨k, n, waiting, .regexp (d + 1) false read⟩ (')' :: u) =
      scan ⟨k + 1, n, waiting, .regexp d false (')' :: read)⟩ u :=
  scan_cons_of_step rfl u

/-! ## Tokens -/

/-- What a token delivers, behind which a scan goes on. -/
def delivered (n : ℕ) (waiting : Option (ℕ × Text)) (lexeme : Lexeme) (m : ℕ) (v : Text) :
    List Token × ℕ :=
  before ((between n waiting).flush n ++ [⟨lexeme, ⟨n, m⟩⟩]) ((between m none).scan v)

/-- A token that ends in front of a character that does not go on with it. -/
theorem delivered_cons (n : ℕ) (lexeme : Lexeme) (k : ℕ) (c : Char) (v : Text) :
    delivered n waiting lexeme k (c :: v) =
      before ((between n waiting).flush n ++ [⟨lexeme, ⟨n, k⟩⟩] ++ ((between k none).openToken c).1)
        (((between k none).openToken c).2.scan v) := by
  rw [delivered, scan_cons, before_before]
  rfl

/-- The rest of quoted text, up to its mark. -/
theorem scan_quoted (hmark : isQuote mark) {body value : Text} (h : Quoted mark body value)
    {k m : ℕ} (hm : m = k + body.length + 1) (read v : Text) :
    scan ⟨k, n, waiting, .quote mark false read⟩ (body ++ mark :: v) =
      delivered n waiting (.text (read.reverse ++ value)) m v := by
  induction h generalizing k read with
  | nil =>
    subst hm
    rw [List.nil_append, List.append_nil, scan_cons, step]
    dsimp only
    rw [if_pos rfl]
    rfl
  | char hne hb _ ih =>
    rw [List.length_cons] at hm
    rw [List.cons_append, scan_quote_char hne hb, ih (by omega), List.reverse_cons,
      List.append_assoc, List.singleton_append]
  | escape _ ih =>
    rw [List.length_cons, List.length_cons] at hm
    rw [List.cons_append, List.cons_append, scan_quote_escape hmark, ih (by omega),
      List.reverse_cons, List.append_assoc, List.singleton_append]

/-- The rest of a raw regular expression, up to the parenthesis that closes it. -/
theorem scan_regexp {d : ℕ} {body : Text} (h : Balanced d body) {k m : ℕ}
    (hm : m = k + body.length + 1) (read v : Text) :
    scan ⟨k, n, waiting, .regexp d false read⟩ (body ++ ')' :: v) =
      delivered n waiting (.regexp (read.reverse ++ body)) m v := by
  induction h generalizing k read with
  | nil =>
    subst hm
    rw [List.nil_append, List.append_nil, scan_cons]
    rfl
  | char hb ho hc _ ih =>
    rw [List.length_cons] at hm
    rw [List.cons_append, scan_regexp_char hb ho hc, ih (by omega), List.reverse_cons,
      List.append_assoc, List.singleton_append]
  | escape _ ih =>
    rw [List.length_cons, List.length_cons] at hm
    rw [List.cons_append, List.cons_append, scan_regexp_escape, ih (by omega), List.reverse_cons,
      List.reverse_cons, List.append_assoc, List.append_assoc, List.singleton_append,
      List.singleton_append]
  | opening _ ih =>
    rw [List.length_cons] at hm
    rw [List.cons_append, scan_regexp_opening, ih (by omega), List.reverse_cons,
      List.append_assoc, List.singleton_append]
  | closing _ ih =>
    rw [List.length_cons] at hm
    rw [List.cons_append, scan_regexp_closing, ih (by omega), List.reverse_cons,
      List.append_assoc, List.singleton_append]

/-- The rest of a name. -/
theorem scan_name {name : Text} (h : ∀ c ∈ name, isNameChar c) {k m : ℕ}
    (hm : m = k + name.length) (read : Text) {v : Text} (hv : ∀ c ∈ v.head?, isNameChar c = false) :
    scan ⟨k, n, waiting, .name read⟩ (name ++ v) =
      delivered n waiting (.variable (read.reverse ++ name)) m v := by
  induction name generalizing k read with
  | nil =>
    subst hm
    rw [List.nil_append, List.append_nil]
    cases v with
    | nil => simp [scan, run, finish, delivered, before, between, deliver, flush]
    | cons c v =>
      have hstep : isNameChar c = false := hv c rfl
      rw [delivered_cons, scan_cons, step]
      dsimp only
      rw [if_neg (by simp [hstep])]
      rfl
  | cons c name ih =>
    obtain ⟨hc, h⟩ := List.forall_mem_cons.1 h
    have hstep : step ⟨k, n, waiting, .name read⟩ c =
        ([], ⟨k + 1, n, waiting, .name (c :: read)⟩) := by
      simp only [step, if_pos hc]
    rw [List.length_cons] at hm
    rw [List.cons_append, scan_cons_of_step hstep, ih h (by omega), List.reverse_cons,
      List.append_assoc, List.singleton_append]

/-- **Tokens.** Between tokens, a scan reads the source of a token and delivers the text that
    waits and that token. -/
theorem scan_token {lexeme : Lexeme} {a : Text} (h : lexeme.Written a)
    (hb : ∀ c ∈ a.head?, isBare c = false) (hv : ∀ c ∈ v.head?, goesOn a c = false) :
    (between n waiting).scan (a ++ v) = delivered n waiting lexeme (n + a.length) v := by
  cases h with
  | bare hc => simp [hb _ rfl] at hc
  | @quoted mark body value hq hbody =>
    have hstop : n + (mark :: (body ++ [mark])).length = n + 1 + body.length + 1 := by
      simp only [List.length_cons, List.length_append, List.length_nil]
      omega
    rw [List.cons_append, List.append_assoc, scan_cons_of_step (step_quote hq)]
    exact scan_quoted hq hbody hstop [] v
  | @regexp body hbody =>
    have hopen : (between n waiting).step '(' = ([], ⟨n + 1, n, waiting, .regexp 0 false []⟩) := rfl
    have hstop : n + ('(' :: (body ++ [')'])).length = n + 1 + body.length + 1 := by
      simp only [List.length_cons, List.length_append, List.length_nil]
      omega
    rw [List.cons_append, List.append_assoc, scan_cons_of_step hopen]
    exact scan_regexp hbody hstop [] v
  | @«variable» c name hc hname =>
    have hcolon : (between n waiting).step ':' = ([], ⟨n + 1, n, waiting, .colon⟩) := rfl
    have hstart : step ⟨n + 1, n, waiting, .colon⟩ c = ([], ⟨n + 1 + 1, n, waiting, .name [c]⟩) := by
      simp only [step, if_pos hc]
    have hstop : n + (':' :: c :: name).length = n + 1 + 1 + name.length := by
      simp only [List.length_cons]
      omega
    rw [List.cons_append, List.cons_append, scan_cons_of_step hcolon, scan_cons_of_step hstart]
    exact scan_name hname hstop [c] hv
  | wildcard =>
    have hstar : (between n waiting).step '*' = ([], ⟨n + 1, n, waiting, .star⟩) := rfl
    rw [List.singleton_append, scan_cons_of_step hstar]
    cases v with
    | nil => simp [scan, run, finish, delivered, before, between, deliver, flush]
    | cons c v =>
      have hstep : c ≠ '*' := of_decide_eq_false (hv c rfl)
      rw [delivered_cons, scan_cons, step]
      dsimp only
      rw [if_neg hstep]
      rfl
  | greedy =>
    have hstar : (between n waiting).step '*' = ([], ⟨n + 1, n, waiting, .star⟩) := rfl
    rw [List.cons_append, scan_cons_of_step hstar, List.singleton_append, scan_cons]
    rfl
  | single hc =>
    rw [List.singleton_append, scan_cons]
    cases hc <;> rfl

/-! ## Where a scan is stuck -/

theorem scan_stopped (k : ℕ) (u : Text) : scan ⟨k, n, waiting, .stopped⟩ u = ([], n) := by
  induction u generalizing k with
  | nil => rfl
  | cons c u ih =>
    have hstep : step ⟨k, n, waiting, .stopped⟩ c = ([], ⟨k + 1, n, waiting, .stopped⟩) := rfl
    rw [scan_cons_of_step hstep, ih]

/-- Quoted text without its mark behind it. -/
theorem scan_unquoted (hmark : isQuote mark) (k : ℕ) (read u : Text)
    (h : ∀ body value back, Quoted mark body value → u ≠ body ++ mark :: back) :
    scan ⟨k, n, waiting, .quote mark false read⟩ u = ([], n) := by
  match u with
  | [] => rfl
  | c :: u =>
    have hc : c ≠ mark := by
      rintro rfl
      exact h [] [] u .nil rfl
    by_cases hb : c = '\\'
    · subst hb
      cases u with
      | nil =>
        rw [scan_cons_of_step (step_quote_escape hmark k read)]
        rfl
      | cons d u =>
        rw [scan_quote_escape hmark]
        refine scan_unquoted hmark _ _ u ?_
        rintro body value back hbody rfl
        exact h ('\\' :: d :: body) (d :: value) back (.escape hbody) rfl
    · rw [scan_quote_char hc hb]
      refine scan_unquoted hmark _ _ u ?_
      rintro body value back hbody rfl
      exact h (c :: body) (c :: value) back (.char hc hb hbody) rfl

/-- A raw regular expression without the parenthesis that closes it behind it. -/
theorem scan_unbalanced (k d : ℕ) (read u : Text)
    (h : ∀ body back, Balanced d body → u ≠ body ++ ')' :: back) :
    scan ⟨k, n, waiting, .regexp d false read⟩ u = ([], n) := by
  -- if the rest of the text closed what is open, the text would
  have hrest : ∀ {e : ℕ} {a rest : Text}, u = a ++ rest →
      (∀ body, Balanced e body → Balanced d (a ++ body)) →
      ∀ body back, Balanced e body → rest ≠ body ++ ')' :: back := by
    rintro e a _ hu ha body back hbody rfl
    exact h (a ++ body) back (ha body hbody) (by rw [hu, List.append_assoc])
  match u with
  | [] => rfl
  | c :: u =>
    by_cases hc : c = ')'
    · subst hc
      cases d with
      | zero => exact absurd rfl (h [] u .nil)
      | succ d =>
        rw [scan_regexp_closing]
        exact scan_unbalanced _ d _ u (hrest (a := [')']) rfl fun _ => .closing)
    by_cases ho : c = '('
    · subst ho
      rw [scan_regexp_opening]
      exact scan_unbalanced _ (d + 1) _ u (hrest (a := ['(']) rfl fun _ => .opening)
    by_cases hb : c = '\\'
    · subst hb
      cases u with
      | nil => rfl
      | cons e u =>
        rw [scan_regexp_escape]
        exact scan_unbalanced _ d _ u (hrest (a := ['\\', e]) rfl fun _ => .escape)
    · rw [scan_regexp_char hb ho hc]
      exact scan_unbalanced _ d _ u (hrest (a := [c]) rfl fun _ => .char hb ho hc)

/-- Where it is stuck, a scan delivers nothing, not even the text that waits. -/
theorem scan_stuck (h : Stuck u) : (between n waiting).scan u = ([], n) := by
  cases h with
  | @colon u h =>
    have hcolon : (between n waiting).step ':' = ([], ⟨n + 1, n, waiting, .colon⟩) := rfl
    rw [scan_cons_of_step hcolon]
    cases u with
    | nil => rfl
    | cons c u =>
      have hc : isNameStart c = false := h c rfl
      have hstep : step ⟨n + 1, n, waiting, .colon⟩ c = ([], ⟨n + 1 + 1, n, waiting, .stopped⟩) := by
        simp [step, hc]
      rw [scan_cons_of_step hstep, scan_stopped]
  | quote hq h => rw [scan_cons_of_step (step_quote hq), scan_unquoted hq _ _ _ h]
  | regexp h =>
    have hopen : (between n waiting).step '(' = ([], ⟨n + 1, n, waiting, .regexp 0 false []⟩) := rfl
    rw [scan_cons_of_step hopen, scan_unbalanced _ _ _ _ h]

/-! ## Bare text -/

/-- Bare text waits. -/
theorem scan_waiting {a : Text} (ha : ∀ c ∈ a, isBare c) (n k : ℕ) (read v : Text) :
    (between n (some (k, read))).scan (a ++ v) =
      (between (n + a.length) (some (k, a.reverse ++ read))).scan v := by
  induction a generalizing n read with
  | nil => rfl
  | cons c a ih =>
    obtain ⟨hc, ha⟩ := List.forall_mem_cons.1 ha
    rw [List.cons_append, scan_cons_of_step (step_bare hc), Option.getD_some, ih ha,
      List.length_cons, List.reverse_cons, List.append_assoc, List.singleton_append,
      Nat.add_assoc, Nat.add_comm 1]

/-- Bare text waits from its first character on. -/
theorem scan_bare {a : Text} (hne : a ≠ []) (ha : ∀ c ∈ a, isBare c) (n : ℕ) (v : Text) :
    (between n none).scan (a ++ v) = (between (n + a.length) (some (n, a.reverse))).scan v := by
  cases a with
  | nil => exact absurd rfl hne
  | cons c a =>
    obtain ⟨hc, ha⟩ := List.forall_mem_cons.1 ha
    rw [List.cons_append, scan_cons_of_step (step_bare hc), Option.getD_none, scan_waiting ha,
      List.length_cons, List.reverse_cons, Nat.add_assoc, Nat.add_comm 1]

/-- Where it ends, the text that waits is delivered, unless a scan is stuck there. -/
theorem scan_flush (hv : ∀ c ∈ v.head?, isBare c = false) (hs : ¬Stuck v) :
    (between n waiting).scan v =
      before ((between n waiting).flush n) ((between n none).scan v) := by
  cases v with
  | nil => simp [scan, run, finish, before, between, flush]
  | cons c v =>
    by_cases hc : isSpace c
    · rw [scan_cons, scan_cons, step_space hc, step_space hc, before_before]
      simp [between, flush]
    · obtain ⟨lexeme, a, w, heq, ha, hw⟩ := begins (Bool.eq_false_iff.2 hc) hs
      obtain ⟨d, a, rfl⟩ := List.exists_cons_of_ne_nil ha.ne_nil
      have hhead : ∀ d' ∈ (d :: a).head?, isBare d' = false := by
        obtain ⟨rfl, -⟩ := List.cons.inj heq
        exact hv
      rw [heq, scan_token ha hhead hw, scan_token ha hhead hw, delivered, delivered, before_before]
      simp [between, flush]

end Scanner

open Scanner

/-! ## Cuts -/

variable {n m : ℕ} {u v : Text} {ts : List Token}

/-- A token that ends in front of what follows it is delivered. -/
theorem Ends.scan_eq {lexeme : Lexeme} {a : Text} (h : Ends a v) (ha : lexeme.Written a) (n : ℕ) :
    (between n none).scan (a ++ v) =
      before [⟨lexeme, ⟨n, n + a.length⟩⟩] ((between (n + a.length) none).scan v) := by
  obtain ⟨c, a, rfl⟩ := List.exists_cons_of_ne_nil ha.ne_nil
  by_cases hc : isBare c
  · have hall : ∀ d ∈ c :: a, isBare d := ha.isBare hc
    have hv : ∀ d ∈ v.head?, isBare d = false := by
      intro d hd
      have := h.apart d hd
      rwa [goesOn_of_isBare hc] at this
    have hs : ¬Stuck v := h.free (by simpa using hc)
    rw [scan_bare (List.cons_ne_nil c a) hall, scan_flush hv hs, ha.of_bare hc]
    simp [between, flush]
  · have hhead : ∀ d ∈ (c :: a).head?, isBare d = false := by simpa using hc
    exact scan_token ha hhead h.apart

/-- **Cuts.** A scan delivers the tokens of a cut, and goes on behind it. -/
theorem Cut.scan_eq (h : Cut n u ts m v) :
    (between n none).scan u = before ts ((between m none).scan v) := by
  induction h with
  | done => rfl
  | space hc _ ih =>
    rw [scan_cons, step_space hc, ih]
    rfl
  | token hl ha _ ih =>
    rw [ha.scan_eq hl, ih, before_before]
    rfl

/-- The tokens of a text that is cut up to its end. -/
theorem Cut.tokens_eq (h : Cut 0 u ts m []) : tokens u = (ts, m) :=
  h.scan_eq.trans (by simp [before, Scanner.scan, run, between, finish, flush])

/-- **Each text is cut** up to its end, or up to where a scan is stuck, or up to bare text in
    front of that. -/
theorem exists_cut (n : ℕ) (u : Text) : ∃ ts m v, Cut n u ts m v ∧
    (v = [] ∨ ∃ a w, v = a ++ w ∧ (∀ c ∈ a, isBare c) ∧ Stuck w) := by
  match u with
  | [] => exact ⟨[], n, [], .done, .inl rfl⟩
  | c :: u =>
    by_cases hs : Stuck (c :: u)
    · exact ⟨[], n, c :: u, .done, .inr ⟨[], c :: u, rfl, by simp, hs⟩⟩
    by_cases hc : isSpace c
    · obtain ⟨ts, m, v, hcut, hv⟩ := exists_cut (n + 1) u
      exact ⟨ts, m, v, .space hc hcut, hv⟩
    obtain ⟨lexeme, a, w, heq, ha, hw⟩ := begins (Bool.eq_false_iff.2 hc) hs
    have hlength : w.length ≤ u.length := by
      have hpos := ha.length_pos
      have htotal := congrArg List.length heq
      rw [List.length_cons, List.length_append] at htotal
      omega
    by_cases hends : Ends a w
    · obtain ⟨ts, m, v, hcut, hv⟩ := exists_cut (n + a.length) w
      rw [heq]
      exact ⟨_, m, v, .token ha hends hcut, hv⟩
    · -- only bare text does not end in front of what does not go on with it
      have hstuck : (∀ d ∈ a.head?, isBare d) ∧ Stuck w := by
        by_contra hno
        exact hends ⟨hw, fun hbare hs => hno ⟨hbare, hs⟩⟩
      obtain ⟨d, a, rfl⟩ := List.exists_cons_of_ne_nil ha.ne_nil
      exact ⟨[], n, c :: u, .done, .inr ⟨d :: a, w, heq, ha.isBare (hstuck.1 d rfl), hstuck.2⟩⟩
termination_by u.length

end PathRouting.Pattern
