/-
  How a pattern is cut into tokens.

  * `Lexeme.Written`: the source of a lexeme, that is, what stands in a pattern where a token
    says it. `Written.unique`: no source has two lexemes.
  * `Stuck`: a scan does not get beyond the start of a text.
  * `Cut`: a text is cut into tokens up to a place. Tokens are as long as they can be, and
    are judged by what really follows them.
  * `Cut.boundary`: a text is cut at the start and at the end of each of its tokens.
    `Cut.replace`: up to there, something else may follow.
-/
import PathRouting.Proofs.Pattern.Concatenation
import PathRouting.Proofs.Pattern.Shape

namespace PathRouting.Pattern

/-! ## Sources of lexemes -/

/-- A character of bare text: neither white space nor one that a token starts with. -/
def isBare (c : Char) : Bool :=
  !isSpace c && c ∉ [':', '{', '}', ',', '/', '*', '\x22', '\x27', '(']

/-- A character that quoted text stands between. -/
def isQuote (c : Char) : Bool :=
  c = '\x22' || c = '\x27'

/-- Text between two marks, and the value for which it stands: a backslash makes the next
    character literal. -/
inductive Quoted (mark : Char) : Text → Text → Prop
  | nil : Quoted mark [] []
  | char {c : Char} {body value : Text} : c ≠ mark → c ≠ '\\' → Quoted mark body value →
    Quoted mark (c :: body) (c :: value)
  | escape {c : Char} {body value : Text} : Quoted mark body value →
    Quoted mark ('\\' :: c :: body) (c :: value)

/-- What stands in a pattern for a lexeme. -/
inductive Lexeme.Written : Lexeme → Text → Prop
  | bare {c : Char} {u : Text} : isBare c → (∀ d ∈ u, isBare d) → Written (.text (c :: u)) (c :: u)
  | quoted {mark : Char} {body value : Text} : isQuote mark → Quoted mark body value →
    Written (.text value) (mark :: (body ++ [mark]))
  | variable {c : Char} {name : Text} : isNameStart c → (∀ d ∈ name, isNameChar d) →
    Written (.variable (c :: name)) (':' :: c :: name)
  | wildcard : Written (.wildcard false) ['*']
  | greedy : Written (.wildcard true) ['*', '*']
  | regexp {body : Text} : Balanced 0 body → Written (.regexp body) ('(' :: (body ++ [')']))
  | single {c : Char} {lexeme : Lexeme} : Scanner.Single c lexeme → Written lexeme [c]

/-- A scan does not get beyond the start of a text: at a colon without a name, at quoted text
    that is not closed, or at a raw regular expression that is not. -/
inductive Stuck : Text → Prop
  | colon {u : Text} : (∀ c ∈ u.head?, isNameStart c = false) → Stuck (':' :: u)
  | quote {mark : Char} {u : Text} : isQuote mark →
    (∀ body value back, Quoted mark body value → u ≠ body ++ mark :: back) → Stuck (mark :: u)
  | regexp {u : Text} : (∀ body back, Balanced 0 body → u ≠ body ++ ')' :: back) →
    Stuck ('(' :: u)

/-- Whether a character right behind the source of a token goes on with it. -/
def goesOn (source : Text) (c : Char) : Bool :=
  match source with
  | ':' :: _ => isNameChar c
  | ['*'] => c = '*'
  | d :: _ => isBare d && isBare c
  | [] => false

/-- A token ends in front of what follows it: that does not go on with it, and no scan is
    stuck there that still holds bare text. -/
structure Ends (source after : Text) : Prop where
  apart : ∀ c ∈ after.head?, goesOn source c = false
  free : (∀ c ∈ source.head?, isBare c) → ¬Stuck after

/-- The text `u` at offset `n` is cut into tokens up to the text `v` at offset `m`. -/
inductive Cut : ℕ → Text → List Token → ℕ → Text → Prop
  | done {n : ℕ} {u : Text} : Cut n u [] n u
  | space {n m : ℕ} {c : Char} {u v : Text} {ts : List Token} : isSpace c → Cut (n + 1) u ts m v →
    Cut n (c :: u) ts m v
  | token {n m : ℕ} {lexeme : Lexeme} {a u v : Text} {ts : List Token} : lexeme.Written a →
    Ends a u → Cut (n + a.length) u ts m v →
    Cut n (a ++ u) (⟨lexeme, ⟨n, n + a.length⟩⟩ :: ts) m v

/-! ## Characters -/

theorem isQuote_iff {c : Char} : isQuote c ↔ c = '\x22' ∨ c = '\x27' := by
  simp [isQuote]

theorem isSpace_iff {c : Char} : isSpace c ↔ c = ' ' ∨ c = '\t' ∨ c = '\r' ∨ c = '\n' := by
  simp [isSpace, or_assoc]

/-- A character is white space, or bare, or a token starts with it. -/
theorem char_cases (c : Char) : isSpace c ∨ isBare c ∨ c = ':' ∨ c = '*' ∨ c = '(' ∨ isQuote c ∨
    ∃ lexeme, Scanner.Single c lexeme := by
  by_cases hs : isSpace c
  · exact .inl hs
  by_cases hb : isBare c
  · exact .inr (.inl hb)
  have hmem : c ∈ [':', '{', '}', ',', '/', '*', '\x22', '\x27', '('] := by
    by_contra hc
    exact hb (by simp_all [isBare])
  simp only [List.mem_cons, List.not_mem_nil, or_false] at hmem
  rcases hmem with rfl | rfl | rfl | rfl | rfl | rfl | rfl | rfl | rfl
  · simp
  · exact .inr (.inr (.inr (.inr (.inr (.inr ⟨_, .altStart⟩)))))
  · exact .inr (.inr (.inr (.inr (.inr (.inr ⟨_, .altEnd⟩)))))
  · exact .inr (.inr (.inr (.inr (.inr (.inr ⟨_, .altSeparator⟩)))))
  · exact .inr (.inr (.inr (.inr (.inr (.inr ⟨_, .separator⟩)))))
  · simp
  · simp [isQuote]
  · simp [isQuote]
  · simp

/-- A name goes on with characters of names, a wildcard with another one, and bare text with bare
    text. -/
theorem not_goesOn {c : Char} (hname : isNameChar c = false) (hstar : c ≠ '*')
    (hbare : isBare c = false) (a : Text) : goesOn a c = false := by
  unfold goesOn
  split
  · exact hname
  · exact decide_eq_false hstar
  · rw [hbare, Bool.and_false]
  · rfl

/-- White space goes on with no token. -/
theorem not_goesOn_of_isSpace {c : Char} (h : isSpace c) : ∀ a, goesOn a c = false := by
  rcases isSpace_iff.1 h with rfl | rfl | rfl | rfl
  all_goals exact not_goesOn (by decide) (by decide) (by decide)

/-- Quoted text goes on with no token. -/
theorem not_goesOn_of_isQuote {c : Char} (h : isQuote c) : ∀ a, goesOn a c = false := by
  rcases isQuote_iff.1 h with rfl | rfl
  all_goals exact not_goesOn (by decide) (by decide) (by decide)

/-- Bare text goes on up to the next character that is not bare. -/
theorem goesOn_of_isBare {c : Char} (h : isBare c) (a : Text) (d : Char) :
    goesOn (c :: a) d = isBare d := by
  unfold goesOn
  split
  · next heq =>
    cases heq
    exact absurd h (by decide)
  · next heq =>
    cases heq
    exact absurd h (by decide)
  · next heq =>
    cases heq
    rw [h, Bool.true_and]
  · next heq => cases heq

theorem not_stuck_of_isSpace {c : Char} (h : isSpace c) (u : Text) : ¬Stuck (c :: u) := by
  intro hs
  cases hs with
  | colon => exact absurd h (by decide)
  | quote hq =>
    rcases isQuote_iff.1 hq with rfl | rfl
    · exact absurd h (by decide)
    · exact absurd h (by decide)
  | regexp => exact absurd h (by decide)

theorem not_isBare_of_isQuote {c : Char} (h : isQuote c) : isBare c = false := by
  rcases isQuote_iff.1 h with rfl | rfl <;> decide

theorem not_stuck_of_isBare {c : Char} (h : isBare c) (u : Text) : ¬Stuck (c :: u) := by
  intro hs
  cases hs with
  | colon | regexp => exact absurd h (by decide)
  | quote hq => simp [not_isBare_of_isQuote hq] at h

theorem not_isBare_of_single {c : Char} {lexeme : Lexeme} (h : Scanner.Single c lexeme) :
    isBare c = false := by
  cases h <;> decide

theorem not_isQuote_of_single {c : Char} {lexeme : Lexeme} (h : Scanner.Single c lexeme) :
    isQuote c = false := by
  cases h <;> decide

/-- Where a scan is stuck, no token goes on. -/
theorem Stuck.not_goesOn {c : Char} {u : Text} (h : Stuck (c :: u)) : ∀ a, goesOn a c = false := by
  cases h with
  | colon | regexp => exact Pattern.not_goesOn (by decide) (by decide) (by decide)
  | quote hq => exact not_goesOn_of_isQuote hq

/-! ## Sources are sources of one lexeme only -/

theorem Quoted.value_unique {mark : Char} {body v w : Text} (hv : Quoted mark body v)
    (hw : Quoted mark body w) : v = w := by
  induction hv generalizing w with
  | nil =>
    cases hw
    rfl
  | char hm hb _ ih =>
    cases hw with
    | char _ _ hw => rw [ih hw]
    | escape => exact absurd rfl hb
  | escape _ ih =>
    cases hw with
    | char _ hb => exact absurd rfl hb
    | escape hw => rw [ih hw]

namespace Lexeme.Written

variable {l l' : Lexeme} {a u : Text} {c : Char}

theorem ne_nil (h : l.Written a) : a ≠ [] := by
  cases h <;> exact List.cons_ne_nil _ _

theorem length_pos (h : l.Written a) : 0 < a.length :=
  List.length_pos_iff.2 h.ne_nil

theorem of_bare (h : l.Written (c :: u)) (hc : isBare c) : l = .text (c :: u) := by
  cases h with
  | bare => rfl
  | quoted hq => simp [not_isBare_of_isQuote hq] at hc
  | single hs => simp [not_isBare_of_single hs] at hc
  | «variable» | wildcard | greedy | regexp => exact absurd hc (by decide)

/-- All of bare text is bare. -/
theorem isBare (h : l.Written (c :: u)) (hc : Pattern.isBare c) : ∀ d ∈ c :: u, Pattern.isBare d := by
  cases h with
  | bare _ hu => exact List.forall_mem_cons.2 ⟨hc, hu⟩
  | quoted hq => simp [not_isBare_of_isQuote hq] at hc
  | single hs => simp [not_isBare_of_single hs] at hc
  | «variable» | wildcard | greedy | regexp => exact absurd hc (by decide)

theorem of_quote (h : l.Written (c :: u)) (hc : isQuote c) :
    ∃ body value, u = body ++ [c] ∧ Quoted c body value ∧ l = .text value := by
  cases h with
  | quoted _ hb => exact ⟨_, _, rfl, hb, rfl⟩
  | bare hb => simp [not_isBare_of_isQuote hc] at hb
  | single hs => simp [not_isQuote_of_single hs] at hc
  | «variable» | wildcard | greedy | regexp => exact absurd hc (by decide)

theorem of_paren (h : l.Written ('(' :: u)) : ∃ body, u = body ++ [')'] ∧ l = .regexp body := by
  cases h with
  | regexp => exact ⟨_, rfl, rfl⟩
  | bare hb => exact absurd hb (by decide)
  | quoted hq => exact absurd hq (by decide)
  | single hs => cases hs

theorem of_colon (h : l.Written (':' :: u)) : l = .variable u := by
  cases h with
  | «variable» => rfl
  | bare hb => exact absurd hb (by decide)
  | quoted hq => exact absurd hq (by decide)
  | single hs => cases hs

theorem of_star (h : l.Written ('*' :: u)) : l = .wildcard (!u.isEmpty) := by
  cases h with
  | wildcard | greedy => rfl
  | bare hb => exact absurd hb (by decide)
  | quoted hq => exact absurd hq (by decide)
  | single hs => cases hs

theorem of_single {l'' : Lexeme} (h : l.Written (c :: u)) (hc : Scanner.Single c l'') : l = l'' := by
  cases h with
  | single hs => cases hs <;> cases hc <;> rfl
  | bare hb => simp [not_isBare_of_single hc] at hb
  | quoted hq => simp [not_isQuote_of_single hc] at hq
  | «variable» | wildcard | greedy | regexp => cases hc

/-- **Sources.** What stands in a pattern is the source of one lexeme at most. -/
theorem unique (h : l.Written a) (h' : l'.Written a) : l = l' := by
  cases h with
  | bare hc => rw [h'.of_bare hc]
  | quoted hq hb =>
    obtain ⟨body, value, heq, hb', rfl⟩ := h'.of_quote hq
    obtain rfl := List.append_cancel_right heq
    rw [hb.value_unique hb']
  | «variable» => rw [h'.of_colon]
  | wildcard | greedy => rw [h'.of_star]; rfl
  | regexp =>
    obtain ⟨body, heq, rfl⟩ := h'.of_paren
    rw [List.append_cancel_right heq]
  | single hs => rw [h'.of_single hs]

/-- No scan is stuck in front of a token. -/
theorem not_stuck (h : l.Written a) (ha : Ends a u) : ¬Stuck (a ++ u) := by
  intro hs
  cases h with
  | bare hc => exact not_stuck_of_isBare hc _ hs
  | quoted hq hb =>
    rw [List.cons_append, List.append_assoc] at hs
    cases hs with
    | colon | regexp => exact absurd hq (by decide)
    | quote _ hopen => exact hopen _ _ _ hb rfl
  | «variable» hc =>
    cases hs with
    | colon hno => simp [hno _ rfl] at hc
    | quote hq => exact absurd hq (by decide)
  | wildcard | greedy =>
    cases hs with
    | quote hq => exact absurd hq (by decide)
  | regexp hb =>
    rw [List.cons_append, List.append_assoc] at hs
    cases hs with
    | quote hq => exact absurd hq (by decide)
    | regexp hopen => exact hopen _ _ hb rfl
  | single hc =>
    rw [List.singleton_append] at hs
    cases hs with
    | colon | regexp => cases hc
    | quote hq => simp [not_isQuote_of_single hc] at hq

end Lexeme.Written

/-! ## What a text begins with -/

/-- A text up to the first character that is not such a one. -/
theorem exists_run (p : Char → Bool) (u : Text) :
    ∃ a v, u = a ++ v ∧ (∀ c ∈ a, p c) ∧ ∀ c ∈ v.head?, p c = false := by
  refine ⟨u.takeWhile p, u.dropWhile p, List.takeWhile_append_dropWhile.symm,
    fun c hc => List.mem_takeWhile_imp hc, fun c hc => ?_⟩
  have hnot := List.head?_dropWhile_not p u
  rw [Option.mem_def.1 hc] at hnot
  simpa using hnot

/-- A text begins with white space or with a token, if no scan is stuck there. -/
theorem begins {c : Char} {u : Text} (hs : isSpace c = false) (hstuck : ¬Stuck (c :: u)) :
    ∃ (l : Lexeme) (a v : Text), c :: u = a ++ v ∧ l.Written a ∧
      ∀ d ∈ v.head?, goesOn a d = false := by
  rcases char_cases c with h | hb | rfl | rfl | rfl | hq | ⟨l, hl⟩
  · simp [hs] at h
  · obtain ⟨a, v, rfl, ha, hv⟩ := exists_run isBare u
    refine ⟨_, c :: a, v, rfl, .bare hb ha, fun d hd => ?_⟩
    rw [goesOn_of_isBare hb, hv d hd]
  · by_cases hname : ∀ d ∈ u.head?, isNameStart d = false
    · exact absurd (.colon hname) hstuck
    cases u with
    | nil => exact absurd (by simp) hname
    | cons d u =>
      obtain ⟨a, v, rfl, ha, hv⟩ := exists_run isNameChar u
      have hd : isNameStart d := by simpa using hname
      exact ⟨_, ':' :: d :: a, v, rfl, .variable hd ha, hv⟩
  · by_cases hnext : u.head? = some '*'
    · obtain ⟨v, rfl⟩ : ∃ v, u = '*' :: v := List.head?_eq_some_iff.1 hnext
      exact ⟨_, ['*', '*'], v, rfl, .greedy, fun _ _ => rfl⟩
    · refine ⟨_, ['*'], u, rfl, .wildcard, fun d hd => ?_⟩
      have hne : d ≠ '*' := by
        rintro rfl
        exact hnext hd
      exact decide_eq_false hne
  · by_contra hno
    refine hstuck (.regexp ?_)
    rintro body back hbody rfl
    exact hno ⟨_, '(' :: (body ++ [')']), back, by simp, .regexp hbody, fun _ _ => rfl⟩
  · by_contra hno
    refine hstuck (.quote hq ?_)
    rintro body value back hbody rfl
    refine hno ⟨_, c :: (body ++ [c]), back, by simp, .quoted hq hbody, fun d _ => ?_⟩
    rcases isQuote_iff.1 hq with rfl | rfl <;> rfl
  · refine ⟨l, [c], u, rfl, .single hl, fun d _ => ?_⟩
    cases hl <;> rfl

/-! ## Cuts -/

namespace Cut

variable {n m k : ℕ} {u v w : Text} {ts us : List Token}

/-- What is cut off. -/
theorem eq_append (h : Cut n u ts m v) : ∃ x, u = x ++ v ∧ m = n + x.length := by
  induction h with
  | done => exact ⟨[], rfl, rfl⟩
  | @space n m c u v ts _ _ ih =>
    obtain ⟨x, rfl, rfl⟩ := ih
    exact ⟨c :: x, rfl, by rw [List.length_cons]; omega⟩
  | @token n m l a u v ts _ _ _ ih =>
    obtain ⟨x, rfl, rfl⟩ := ih
    exact ⟨a ++ x, by rw [List.append_assoc], by rw [List.length_append]; omega⟩

theorem append (h : Cut n u ts m v) (h' : Cut m v us k w) : Cut n u (ts ++ us) k w := by
  induction h with
  | done => exact h'
  | space hs _ ih => exact .space hs (ih h')
  | token hl ha _ ih => exact .token hl ha (ih h')

/-- White space is cut into no tokens. -/
theorem spaces {u : Text} (hu : ∀ c ∈ u, isSpace c) (n : ℕ) (v : Text) :
    Cut n (u ++ v) [] (n + u.length) v := by
  induction u generalizing n with
  | nil => exact .done
  | cons c u ih =>
    obtain ⟨hc, hu⟩ := List.forall_mem_cons.1 hu
    have hrest := ih hu (n + 1)
    rw [Nat.add_assoc, Nat.add_comm 1] at hrest
    exact .space hc hrest

/-- Further on a text is cut alike. -/
theorem shift (h : Cut n u ts m v) (d : ℕ) : Cut (n + d) u (ts.map (·.shift d)) (m + d) v := by
  induction h with
  | done => exact .done
  | space hs _ ih =>
    rw [Nat.add_right_comm] at ih
    exact .space hs ih
  | @token n m l a u v ts hl ha _ ih =>
    rw [Nat.add_right_comm] at ih
    have htoken := Cut.token hl ha ih
    rw [Nat.add_right_comm] at htoken
    exact htoken

/-- No scan is stuck in front of what is cut. -/
theorem not_stuck (h : Cut n u ts m v) (hv : ¬Stuck v) : ¬Stuck u := by
  cases h with
  | done => exact hv
  | space hs => exact not_stuck_of_isSpace hs _
  | token hl ha => exact hl.not_stuck ha

/-- **Cuts.** A text is cut at the start and at the end of each of its tokens. -/
theorem boundary (h : Cut n u ts m v) {t : Token} (ht : t ∈ ts) {k : ℕ}
    (hk : k = t.span.start ∨ k = t.span.stop) :
    ∃ us rs x, ts = us ++ rs ∧ Cut n u us k x ∧ Cut k x rs m v := by
  induction h with
  | done => cases ht
  | space hs _ ih =>
    obtain ⟨us, rs, x, hts, hus, hrs⟩ := ih ht
    exact ⟨us, rs, x, hts, .space hs hus, hrs⟩
  | @token n m l a u v ts hl ha h ih =>
    rcases List.mem_cons.1 ht with rfl | ht
    · rcases hk with rfl | rfl
      · exact ⟨[], _, _, rfl, .done, .token hl ha h⟩
      · exact ⟨[_], ts, u, rfl, .token hl ha .done, h⟩
    · obtain ⟨us, rs, x, rfl, hus, hrs⟩ := ih ht
      exact ⟨_ :: us, rs, x, rfl, .token hl ha hus, hrs⟩

/-- **Replacing.** What is behind a cut may be replaced by something that goes on with no token or
    begins with the same character. -/
theorem replace (h : Cut n u ts m v) (hs : ¬Stuck w)
    (hw : ∀ c ∈ w.head?, (∀ a, goesOn a c = false) ∨ v.head? = some c) :
    ∃ x, u = x ++ v ∧ Cut n (x ++ w) ts m w := by
  induction h with
  | done => exact ⟨[], rfl, .done⟩
  | @space n m c u v ts hc _ ih =>
    obtain ⟨x, rfl, hx⟩ := ih hw
    exact ⟨c :: x, rfl, .space hc hx⟩
  | @token n m l a u v ts hl ha _ ih =>
    obtain ⟨x, rfl, hx⟩ := ih hw
    have hends : Ends a (x ++ w) := by
      refine ⟨fun c hc => ?_, fun _ => hx.not_stuck hs⟩
      cases x with
      | cons d x => exact ha.apart c hc
      | nil =>
        rcases hw c hc with hc | hc
        · exact hc a
        · exact ha.apart c hc
    refine ⟨a ++ x, (List.append_assoc ..).symm, ?_⟩
    rw [List.append_assoc]
    exact .token hl hends hx

end Cut

end PathRouting.Pattern
