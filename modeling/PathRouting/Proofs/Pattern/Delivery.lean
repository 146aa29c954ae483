/-
  Tokens that are handed to a sink.

  Reading by offsets and scanning character by character find the same tokens. A step of the
  reading may call the sink twice, for the bare text that waits and for the token behind it,
  and each call may fail: whatever it does, the calls are those for the tokens in order.

  * `takeName_eq_some`, `takeQuoted_eq_some`, `takeRegexp_eq_some`: where looking ahead finds an
    end, a token ends there. `takeQuoted_of_quoted`, `takeRegexp_of_balanced`: the other way round.
  * `tokenizeFrom_eq`: a reading from an offset on is a scan from there on.
  * `tokenize_streams`: a reading is feeding the sink all tokens, up to the first error.
-/
import PathRouting.Pattern.Sink
import PathRouting.Proofs.Pattern.Scanning

namespace PathRouting.Pattern

open Scanner

variable {c mark : Char} {u v : Text} {n : ℕ}

/-! ## Looking ahead -/

theorem takeName_eq_none (h : takeName u = none) : ∀ c ∈ u.head?, isNameStart c = false := by
  cases u with
  | nil => simp
  | cons c u =>
    rw [takeName] at h
    split_ifs at h with hc
    rintro d ⟨⟩
    exact Bool.eq_false_iff.2 hc

theorem takeName_eq_some (h : takeName u = some n) : ∃ name v, u = name ++ v ∧ n = name.length ∧
    (Lexeme.variable name).Written (':' :: name) ∧ ∀ c ∈ v.head?, isNameChar c = false := by
  cases u with
  | nil => cases h
  | cons c u =>
    rw [takeName] at h
    split_ifs at h with hc
    cases h
    refine ⟨c :: u.takeWhile isNameChar, u.dropWhile isNameChar, ?_, ?_, ?_, ?_⟩
    · rw [List.cons_append, List.takeWhile_append_dropWhile]
    · rw [List.length_cons, Nat.add_comm]
    · exact .variable hc fun d hd => List.mem_takeWhile_imp hd
    · intro d hd
      have hnot := List.head?_dropWhile_not isNameChar u
      rw [Option.mem_def.1 hd] at hnot
      simpa using hnot

section
variable (u)

theorem takeQuoted_mark : takeQuoted mark (mark :: u) = some ([], 1) := by
  cases u <;> simp [takeQuoted]

theorem takeQuoted_char (hm : c ≠ mark) (hb : c ≠ '\\') : takeQuoted mark (c :: u) =
    (takeQuoted mark u).map fun (value, n) => (c :: value, n + 1) := by
  cases u <;> simp [takeQuoted, hm, hb]

theorem takeQuoted_escape (hmark : isQuote mark) (c : Char) : takeQuoted mark ('\\' :: c :: u) =
    (takeQuoted mark u).map fun (value, n) => (c :: value, n + 2) := by
  have hslash : '\\' ≠ mark := by
    rintro rfl
    exact absurd hmark (by decide)
  simp [takeQuoted, hslash]

theorem takeRegexp_closed : takeRegexp 0 (')' :: u) = some (0, 0) := by
  cases u <;> simp [takeRegexp]

variable (d : ℕ)

theorem takeRegexp_closing : takeRegexp (d + 1) (')' :: u) =
    (takeRegexp d u).map fun (groups, n) => (groups, n + 1) := by
  cases u <;> simp [takeRegexp]

theorem takeRegexp_opening : takeRegexp d ('(' :: u) = (takeRegexp (d + 1) u).map
    fun (groups, n) => ((if opensGroup u then 1 else 0) + groups, n + 1) := by
  cases u <;> simp [takeRegexp]

theorem takeRegexp_escape (c : Char) : takeRegexp d ('\\' :: c :: u) =
    (takeRegexp d u).map fun (groups, n) => (groups, n + 2) := by
  simp [takeRegexp]

theorem takeRegexp_char (hb : c ≠ '\\') (ho : c ≠ '(') (hc : c ≠ ')') :
    takeRegexp d (c :: u) = (takeRegexp d u).map fun (groups, n) => (groups, n + 1) := by
  cases u <;> simp [takeRegexp, hb, ho, hc]

end

/-- Quoted text ends at its mark. -/
theorem takeQuoted_of_quoted (hmark : isQuote mark) {body value : Text} (h : Quoted mark body value)
    (v : Text) : takeQuoted mark (body ++ mark :: v) = some (value, body.length + 1) := by
  induction h with
  | nil => exact takeQuoted_mark v
  | char hm hb _ ih => rw [List.cons_append, takeQuoted_char _ hm hb, ih]; rfl
  | escape _ ih => rw [List.cons_append, List.cons_append, takeQuoted_escape _ hmark, ih]; rfl

theorem takeQuoted_eq_some {u value : Text} {n : ℕ} (h : takeQuoted mark u = some (value, n)) :
    ∃ body v, u = body ++ mark :: v ∧ Quoted mark body value ∧ n = body.length + 1 := by
  fun_induction takeQuoted mark u generalizing value n with
  | case1 => cases h
  | case2 rest =>
    cases h
    exact ⟨[], rest, rfl, .nil, rfl⟩
  | case3 => cases h
  | case4 d rest hc ih =>
    obtain ⟨⟨value', k⟩, hrest, heq⟩ := Option.map_eq_some_iff.1 h
    cases heq
    obtain ⟨body, v, rfl, hbody, rfl⟩ := ih hrest
    exact ⟨'\\' :: d :: body, v, rfl, .escape hbody, rfl⟩
  | case5 c rest hc hb ih =>
    obtain ⟨⟨value', k⟩, hrest, heq⟩ := Option.map_eq_some_iff.1 h
    cases heq
    obtain ⟨body, v, rfl, hbody, rfl⟩ := ih hrest
    exact ⟨c :: body, v, rfl, .char hc hb hbody, rfl⟩

/-- A raw regular expression ends at the parenthesis that closes it. -/
theorem takeRegexp_of_balanced {d : ℕ} {body : Text} (h : Balanced d body) (v : Text) :
    takeRegexp d (body ++ ')' :: v) = some (groupCount body, body.length) := by
  induction h with
  | nil => exact takeRegexp_closed v
  | char hb ho hc _ ih =>
    rw [List.cons_append, takeRegexp_char _ _ hb ho hc, ih, groupCount_cons_of_ne hb ho]
    rfl
  | escape _ ih =>
    rw [List.cons_append, List.cons_append, takeRegexp_escape, ih, groupCount_escape]
    rfl
  | opening _ ih =>
    rw [List.cons_append, takeRegexp_opening, ih, groupCount_cons (by decide), opensGroup_append]
    rfl
  | closing _ ih =>
    rw [List.cons_append, takeRegexp_closing, ih, groupCount_cons_of_ne (by decide) (by decide)]
    rfl

theorem exists_of_takeRegexp {d : ℕ} {u : Text} {r : ℕ × ℕ} (h : takeRegexp d u = some r) :
    ∃ body v, u = body ++ ')' :: v ∧ Balanced d body := by
  fun_induction takeRegexp d u generalizing r with
  | case1 => cases h
  | case2 rest => exact ⟨[], rest, rfl, .nil⟩
  | case3 rest d ih =>
    obtain ⟨r', hrest, -⟩ := Option.map_eq_some_iff.1 h
    obtain ⟨body, v, rfl, hbody⟩ := ih hrest
    exact ⟨')' :: body, v, rfl, .closing hbody⟩
  | case4 d rest _ ih =>
    obtain ⟨r', hrest, -⟩ := Option.map_eq_some_iff.1 h
    obtain ⟨body, v, rfl, hbody⟩ := ih hrest
    exact ⟨'(' :: body, v, rfl, .opening hbody⟩
  | case5 => cases h
  | case6 d e rest _ _ ih =>
    obtain ⟨r', hrest, -⟩ := Option.map_eq_some_iff.1 h
    obtain ⟨body, v, rfl, hbody⟩ := ih hrest
    exact ⟨'\\' :: e :: body, v, rfl, .escape hbody⟩
  | case7 d c rest hc ho hb ih =>
    obtain ⟨r', hrest, -⟩ := Option.map_eq_some_iff.1 h
    obtain ⟨body, v, rfl, hbody⟩ := ih hrest
    exact ⟨c :: body, v, rfl, .char hb ho hc hbody⟩

theorem takeRegexp_eq_some {d groups : ℕ} (h : takeRegexp d u = some (groups, n)) :
    ∃ body v, u = body ++ ')' :: v ∧ Balanced d body ∧ groups = groupCount body ∧
      n = body.length := by
  obtain ⟨body, v, rfl, hbody⟩ := exists_of_takeRegexp h
  rw [takeRegexp_of_balanced hbody] at h
  cases h
  exact ⟨body, v, rfl, hbody, rfl, rfl⟩

/-! ## Delivery -/

section
variable {m : Type → Type} [Monad m] (sink : Sink m)

/-- Hands tokens to a sink one by one, and returns the number of characters read. -/
def deliver (r : List Token × ℕ) : m ℕ := do
  forM r.1 sink.receive
  return r.2

variable [LawfulMonad m]

theorem deliver_nil (n : ℕ) : deliver sink ([], n) = pure n := by
  simp [deliver]

theorem deliver_before (ts : List Token) (r : List Token × ℕ) :
    deliver sink (before ts r) = (do forM ts sink.receive; deliver sink r) := by
  simp [deliver, before, List.forM_append]

omit [Monad m] [LawfulMonad m] in
theorem drop_add_length {a v : Text} {pattern : Text} {i : ℕ} (h : pattern.drop i = a ++ v) :
    pattern.drop (i + a.length) = v := by
  rw [← List.drop_drop, h, List.drop_left]

/-- The bare text that waits at an offset. -/
def waitingAt (pattern : Text) (start? : Option ℕ) (i : ℕ) : Option (ℕ × Text) :=
  start?.map fun start => (start, (pattern.slice start i).reverse)

variable {pattern : Text} {start? : Option ℕ} {i : ℕ}

omit [LawfulMonad m] in
/-- One more character of bare text. -/
theorem waitingAt_succ {rest : Text} (hdrop : pattern.drop i = c :: rest)
    (hs : ∀ s ∈ start?, s ≤ i) : waitingAt pattern (some (start?.getD i)) (i + 1) =
      some (((waitingAt pattern start? i).getD (i, [])).1,
        c :: ((waitingAt pattern start? i).getD (i, [])).2) := by
  have hlt : i < pattern.length := by
    have hlength := congrArg List.length hdrop
    rw [List.length_drop, List.length_cons] at hlength
    omega
  have hslice : ∀ s ≤ i, pattern.slice s (i + 1) = pattern.slice s i ++ [c] := by
    intro s hs
    have hc : pattern[i]? = some c := by
      rw [← List.head?_drop, hdrop]
      rfl
    have htake : s ≤ (pattern.take i).length := by
      rw [List.length_take]
      omega
    rw [Text.slice, Text.slice, List.take_add_one, hc, List.drop_append_of_le_length htake]
    rfl
  cases start? with
  | none =>
    have hnone : pattern.slice i i = [] := by simp [Text.slice]
    simp [waitingAt, hslice i le_rfl, hnone]
  | some s => simp [waitingAt, hslice s (hs s rfl)]

theorem forM_flush : forM ((between i (waitingAt pattern start? i)).flush i) sink.receive =
    sink.flush pattern start? i := by
  cases start? with
  | none => rfl
  | some start => simp [waitingAt, between, flush, Sink.flush, Sink.receive]

/-- Hands to a sink what a scan delivers from an offset on. -/
def deliverFrom (pattern : Text) (start? : Option ℕ) (i : ℕ) : m ℕ :=
  deliver sink ((between i (waitingAt pattern start? i)).scan (pattern.drop i))

/-- At the end of the pattern, the sink is given what waits. -/
theorem deliverFrom_end (hdrop : pattern.drop i = []) : deliverFrom sink pattern start? i = (do
    sink.flush pattern start? i
    return i) := by
  rw [deliverFrom, hdrop, ← forM_flush]
  rfl

/-- White space ends the text that waits. -/
theorem deliverFrom_spaces {rest : Text} (hdrop : pattern.drop i = c :: rest) (hc : isSpace c) :
    deliverFrom sink pattern start? i = (do
      sink.flush pattern start? i
      deliverFrom sink pattern none (i + 1 + (rest.takeWhile isSpace).length)) := by
  have hspaces : ∀ d ∈ rest.takeWhile isSpace, isSpace d := fun d hd => List.mem_takeWhile_imp hd
  have hcut := (Cut.spaces hspaces (i + 1) (rest.dropWhile isSpace)).scan_eq
  have hnext : pattern.drop (i + 1) = rest.takeWhile isSpace ++ rest.dropWhile isSpace := by
    rw [List.takeWhile_append_dropWhile]
    exact drop_add_length (a := [c]) hdrop
  rw [List.takeWhile_append_dropWhile] at hcut
  rw [deliverFrom, deliverFrom, hdrop, scan_cons, step_space hc, deliver_before, forM_flush, hcut,
    drop_add_length hnext]
  rfl

/-- Where a token ends the text that waits, the sink is given both. -/
theorem deliverFrom_token {lexeme : Lexeme} {a v : Text} (hdrop : pattern.drop i = a ++ v)
    (ha : lexeme.Written a) (hb : ∀ c ∈ a.head?, isBare c = false)
    (hv : ∀ c ∈ v.head?, goesOn a c = false) {stop : ℕ} (hstop : stop = i + a.length) :
    deliverFrom sink pattern start? i = (do
      sink.flush pattern start? i
      sink.receive ⟨lexeme, ⟨i, stop⟩⟩
      deliverFrom sink pattern none stop) := by
  subst hstop
  rw [deliverFrom, deliverFrom, drop_add_length hdrop, hdrop, scan_token ha hb hv, delivered,
    deliver_before, List.forM_append, forM_flush]
  simp [waitingAt]

/-- A token of a single character. -/
theorem deliverFrom_single {lexeme : Lexeme} {rest : Text} (hdrop : pattern.drop i = c :: rest)
    (hc : Single c lexeme) : deliverFrom sink pattern start? i = (do
      sink.flush pattern start? i
      sink.receive ⟨lexeme, ⟨i, i + 1⟩⟩
      deliverFrom sink pattern none (i + 1)) := by
  have hb : ∀ d ∈ [c].head?, isBare d = false := by
    rintro d ⟨⟩
    exact not_isBare_of_single hc
  refine deliverFrom_token sink (a := [c]) hdrop (.single hc) hb (fun d _ => ?_) rfl
  cases hc <;> rfl

/-- A token between marks, behind which nothing goes on. -/
theorem deliverFrom_marked {lexeme : Lexeme} {body rest : Text} {last : Char}
    (hdrop : pattern.drop i = c :: (body ++ last :: rest))
    (hwritten : lexeme.Written (c :: (body ++ [last]))) (hb : isBare c = false)
    (hend : ∀ d, goesOn (c :: (body ++ [last])) d = false) :
    deliverFrom sink pattern start? i = (do
      sink.flush pattern start? i
      sink.receive ⟨lexeme, ⟨i, i + 1 + body.length + 1⟩⟩
      deliverFrom sink pattern none (i + 1 + body.length + 1)) := by
  refine deliverFrom_token sink (a := c :: (body ++ [last])) (v := rest) ?_ hwritten ?_
    (fun d _ => hend d) ?_
  · rw [hdrop, List.cons_append, List.append_assoc, List.singleton_append]
  · rintro d ⟨⟩
    exact hb
  · rw [List.length_cons, List.length_append, List.length_singleton]
    omega

/-- Where a scan is stuck, the sink is given nothing more, not even the text that waits. -/
theorem deliverFrom_stuck (h : Stuck (pattern.drop i)) :
    deliverFrom sink pattern start? i = pure i := by
  rw [deliverFrom, scan_stuck h, deliver_nil]

omit [LawfulMonad m] in
/-- Bare text waits. -/
theorem deliverFrom_bare {rest : Text} (hdrop : pattern.drop i = c :: rest) (hc : isBare c)
    (hs : ∀ s ∈ start?, s ≤ i) : deliverFrom sink pattern start? i =
      deliverFrom sink pattern (some (start?.getD i)) (i + 1) := by
  have hrest : pattern.drop (i + 1) = rest := drop_add_length (a := [c]) hdrop
  rw [deliverFrom, deliverFrom, hrest, hdrop, scan_cons_of_step (step_bare hc),
    waitingAt_succ hdrop hs]

/-- **Delivery.** Reading a pattern from an offset on is handing to the sink what a scan delivers
    from there on. -/
theorem tokenizeFrom_eq (hs : ∀ s ∈ start?, s ≤ i) :
    tokenizeFrom sink pattern start? i = deliverFrom sink pattern start? i := by
  have hnone : ∀ j, ∀ s ∈ (none : Option ℕ), s ≤ j := by
    rintro j s ⟨⟩
  fun_induction tokenizeFrom sink pattern start? i with
  | case1 start? i hdrop => exact (deliverFrom_end sink hdrop).symm
  | case2 start? i c rest hdrop hc ih => rw [ih (hnone _), deliverFrom_spaces sink hdrop hc]
  -- a variable, or a colon without a name
  | case3 start? i rest hname hdrop =>
    refine (deliverFrom_stuck sink ?_).symm
    rw [hdrop]
    exact .colon (takeName_eq_none hname)
  | case4 start? i rest n hname hdrop _ ih =>
    obtain ⟨name, v, rfl, rfl, hwritten, hv⟩ := takeName_eq_some hname
    rw [ih (hnone _), deliverFrom_token sink (a := ':' :: name) (v := v) hdrop hwritten]
    · rw [List.take_left]
      rfl
    · rintro d ⟨⟩
      decide
    · exact hv
    · rw [List.length_cons]
      omega
  | case5 start? i rest hdrop _ _ ih =>
    rw [ih (hnone _), deliverFrom_single sink hdrop .altStart]
    rfl
  | case6 start? i rest hdrop _ _ _ ih =>
    rw [ih (hnone _), deliverFrom_single sink hdrop .altEnd]
    rfl
  | case7 start? i rest hdrop _ _ _ _ ih =>
    rw [ih (hnone _), deliverFrom_single sink hdrop .altSeparator]
    rfl
  -- one asterisk, or two
  | case8 start? i rest hdrop _ _ _ _ _ ihgreedy ih =>
    split_ifs with hnext
    · obtain ⟨v, rfl⟩ := List.head?_eq_some_iff.1 hnext
      rw [ihgreedy (hnone _), deliverFrom_token sink (a := ['*', '*']) (v := v) hdrop .greedy]
      · rfl
      · rintro d ⟨⟩
        decide
      · exact fun d _ => rfl
      · rfl
    · rw [ih (hnone _), deliverFrom_token sink (a := ['*']) (v := rest) hdrop .wildcard]
      · rfl
      · rintro d ⟨⟩
        decide
      · intro d hd
        refine decide_eq_false ?_
        rintro rfl
        exact hnext hd
      · rfl
  | case9 start? i rest hdrop _ _ _ _ _ _ ih =>
    rw [ih (hnone _), deliverFrom_single sink hdrop .separator]
    rfl
  -- quoted text, closed or not
  | case10 start? i c rest hdrop _ _ _ _ _ _ _ hc hquoted =>
    refine (deliverFrom_stuck sink ?_).symm
    rw [hdrop]
    refine .quote hc ?_
    rintro body value back hbody rfl
    rw [takeQuoted_of_quoted hc hbody] at hquoted
    cases hquoted
  | case11 start? i c rest hdrop _ _ _ _ _ _ _ hc value n hquoted ih =>
    obtain ⟨body, v, rfl, hbody, rfl⟩ := takeQuoted_eq_some hquoted
    rw [ih (hnone _), deliverFrom_marked sink hdrop (.quoted hc hbody)]
    · rfl
    · exact not_isBare_of_isQuote hc
    · rcases isQuote_iff.1 hc with rfl | rfl <;> exact fun d => rfl
  -- a raw regular expression, closed or not
  | case12 start? i rest hregexp hdrop =>
    refine (deliverFrom_stuck sink ?_).symm
    rw [hdrop]
    refine .regexp ?_
    rintro body back hbody rfl
    rw [takeRegexp_of_balanced hbody] at hregexp
    cases hregexp
  | case13 start? i rest groups n hregexp hdrop _ _ _ _ _ _ _ _ ih =>
    obtain ⟨body, v, rfl, hbody, rfl, rfl⟩ := takeRegexp_eq_some hregexp
    rw [ih (hnone _), deliverFrom_marked sink hdrop (.regexp hbody) rfl (fun d => rfl),
      List.take_left]
    rfl
  | case14 start? i c rest hdrop hspace hcolon hstart hend hcomma hstar hslash hquote hparen ih =>
    have hbare : isBare c := by
      simp only [Bool.or_eq_true, decide_eq_true_eq, not_or] at hquote
      simp [isBare, hspace, hcolon, hstart, hend, hcomma, hstar, hslash, hquote, hparen]
    rw [ih ?_, deliverFrom_bare sink hdrop hbare hs]
    rintro s ⟨⟩
    cases start? with
    | none => exact Nat.le_succ i
    | some s => exact Nat.le_succ_of_le (hs s rfl)

/-- **Streaming.** Reading a pattern for a sink is handing its tokens to the sink one by one. -/
theorem tokenize_eq (pattern : Text) : tokenize sink pattern = deliver sink (tokens pattern) := by
  rw [tokenize, tokenizeFrom_eq sink (by rintro s ⟨⟩)]
  rfl

end

/-! ## Sinks that fail -/

section
variable {ε σ : Type} (sink : Sink (EStateM ε σ))

/-- Hands tokens to a sink one by one, up to the first error. -/
def Sink.feed : List Token → σ → EStateM.Result ε σ Unit
  | [], s => .ok () s
  | t :: ts, s =>
    match (sink.receive t).run s with
    | .ok _ s' => Sink.feed ts s'
    | .error e s' => .error e s'

theorem run_forM_receive (ts : List Token) (s : σ) :
    (forM ts sink.receive).run s = sink.feed ts s := by
  induction ts generalizing s with
  | nil => rfl
  | cons t ts ih =>
    rw [List.forM_cons, EStateM.run_bind, Sink.feed]
    cases (sink.receive t).run s with
    | ok u s' => exact ih s'
    | error e s' => rfl

/-- The outcome of a reading is the outcome of the sink, with the number of characters read. -/
theorem run_tokenize (pattern : Text) (s : σ) : (tokenize sink pattern).run s =
    match sink.feed (tokens pattern).1 s with
    | .ok _ s' => .ok (tokens pattern).2 s'
    | .error e s' => .error e s' := by
  rw [tokenize_eq, deliver, EStateM.run_bind, run_forM_receive]
  cases sink.feed (tokens pattern).1 s <;> rfl

variable {sink}

/-- A sink fails at one token, in the state that the tokens before it led to. -/
theorem feed_eq_error {ts : List Token} {s s' : σ} {e : ε} : sink.feed ts s = .error e s' ↔
    ∃ us t vs s₁, ts = us ++ t :: vs ∧ sink.feed us s = .ok () s₁ ∧
      (sink.receive t).run s₁ = .error e s' := by
  constructor
  · intro h
    induction ts generalizing s with
    | nil => cases h
    | cons t ts ih =>
      rw [Sink.feed] at h
      cases ht : (sink.receive t).run s with
      | error e' s₁ =>
        rw [ht] at h
        cases h
        exact ⟨[], t, ts, s, rfl, rfl, ht⟩
      | ok u s₁ =>
        rw [ht] at h
        obtain ⟨us, t', vs, s₂, rfl, hus, ht'⟩ := ih h
        refine ⟨t :: us, t', vs, s₂, rfl, ?_, ht'⟩
        rw [Sink.feed, ht]
        exact hus
  · rintro ⟨us, t, vs, s₁, rfl, hus, ht⟩
    induction us generalizing s with
    | nil =>
      cases hus
      rw [List.nil_append, Sink.feed, ht]
    | cons u us ih =>
      rw [Sink.feed] at hus
      rw [List.cons_append, Sink.feed]
      cases hu : (sink.receive u).run s with
      | error e' s₂ =>
        rw [hu] at hus
        cases hus
      | ok v s₂ =>
        rw [hu] at hus
        exact ih hus

theorem run_receive_ofStep (handle : σ → Token → Except ε σ) (t : Token) (s : σ) :
    ((Sink.ofStep handle).receive t).run s = match handle s t with
      | .ok s' => .ok () s'
      | .error e => .error e s := by
  rw [Sink.ofStep, Sink.receive_ofHandler, EStateM.run_bind, EStateM.run_get]
  cases h : handle s t with
  | ok s' => simp [h]
  | error e => simp [h]

/-- A sink that folds the tokens is fed as its handler is. -/
theorem feed_ofStep (handle : σ → Token → Except ε σ) (ts : List Token) (s : σ) :
    feed handle s ts = match (Sink.ofStep handle).feed ts s with
      | .ok _ s' => .ok s'
      | .error e _ => .error e := by
  induction ts generalizing s with
  | nil => rfl
  | cons t ts ih =>
    rw [feed, Sink.feed, run_receive_ofStep]
    cases handle s t with
    | error e => rfl
    | ok s' => exact ih s'

/-- What the recorder is fed, it holds in order. -/
theorem feed_recorder (ts us : List Token) : Sink.recorder.feed ts us = .ok () (us ++ ts) := by
  induction ts generalizing us with
  | nil =>
    rw [List.append_nil]
    rfl
  | cons t ts ih =>
    rw [Sink.feed, Sink.recorder, Sink.receive_ofHandler, List.append_cons us t ts]
    exact ih (us ++ [t])

/-- **Streaming equals batch.** Reading a pattern for a sink, whatever its handlers do, is handing
    it the tokens of the pattern one by one and in order, up to the first error. It ends well
    with the number of characters that the tokens come with, or else with the error of the
    handler that failed, in the state which that handler left behind. The tokens themselves
    are what a sink that only collects them is given, and a handler that folds them gets the
    same ones. -/
theorem tokenize_streams (sink : Sink (EStateM ε σ)) (pattern : Text) (s : σ) :
    (∀ n s', (tokenize sink pattern).run s = .ok n s' ↔
      sink.feed (tokens pattern).1 s = .ok () s' ∧ n = (tokens pattern).2) ∧
    (∀ e s', (tokenize sink pattern).run s = .error e s' ↔
      sink.feed (tokens pattern).1 s = .error e s') ∧
    (∀ e s', (tokenize sink pattern).run s = .error e s' ↔
      ∃ us t vs s₁, (tokens pattern).1 = us ++ t :: vs ∧ sink.feed us s = .ok () s₁ ∧
        (sink.receive t).run s₁ = .error e s') ∧
    (tokenize .recorder pattern).run [] = .ok (tokens pattern).2 (tokens pattern).1 ∧
    ∀ handle : σ → Token → Except ε σ, stream handle s pattern =
      match (tokenize (.ofStep handle) pattern).run s with
      | .ok n s' => .ok (s', n)
      | .error e _ => .error e := by
  have herror : ∀ e s', (tokenize sink pattern).run s = .error e s' ↔
      sink.feed (tokens pattern).1 s = .error e s' := by
    intro e s'
    rw [run_tokenize]
    cases sink.feed (tokens pattern).1 s <;> simp
  refine ⟨fun n s' => ?_, herror, fun e s' => (herror e s').trans feed_eq_error, ?_,
    fun handle => ?_⟩
  · rw [run_tokenize]
    cases sink.feed (tokens pattern).1 s with
    | ok u s₁ => simp [and_comm, eq_comm]
    | error e s₁ => simp
  · rw [run_tokenize, feed_recorder, List.nil_append]
  · rw [stream_eq_feed, feed_ofStep, run_tokenize]
    cases (Sink.ofStep handle).feed (tokens pattern).1 s <;> rfl

end

/-- A sink that refuses wildcards has the text in front of one by then, and nothing behind it. -/
example : (tokenize (.ofStep fun (ts : List Token) t =>
      if t.lexeme = .wildcard false then .error t.span else .ok (t :: ts)) "a b*c".toList).run [] =
    .error ⟨3, 4⟩ [⟨.text ['b'], ⟨2, 3⟩⟩, ⟨.text ['a'], ⟨0, 1⟩⟩] := by
  cbv

end PathRouting.Pattern
