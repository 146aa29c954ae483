/-
  Texts that close what they open.

  A parenthesis behind a part of a regular expression ends the group around the part only
  if the part has no class, no name and no group open there, and does not skip blanks. A
  scan of the part alone tells so, whether or not the part is accepted.

  * `Nest`: the state of the scan. `Sealed`: texts that the scan leaves as it began.
  * `Nest.Closes.pass`: characters that mean nothing to the scan.
  * `readEscape_sealed`: escape sequences in front of a parenthesis.
-/
import PathRouting.Proofs.Regex.Locality.Escape

namespace PathRouting.Regex

/-! ## The scan -/

/-- Where a scan of a regular expression stands, with so many groups and classes open. -/
inductive Nest where
  /-- between constructs -/
  | text (groups classes : ℕ)
  /-- in a class, behind a hyphen that may make a range -/
  | dash (groups classes : ℕ)
  /-- behind a backslash -/
  | escape (groups classes : ℕ)
  /-- behind `\p` or `\P` -/
  | letter (groups classes : ℕ)
  /-- in the name of a property -/
  | property (groups classes : ℕ)
  /-- behind an opening bracket -/
  | start (groups classes : ℕ)
  /-- behind an opening bracket and a caret -/
  | caret (groups classes : ℕ)
  /-- behind an opening parenthesis -/
  | opened (groups : ℕ)
  /-- behind an opening parenthesis and a question mark -/
  | header (groups : ℕ)
  /-- in the name of a group -/
  | name (groups : ℕ)
  /-- behind what the scan does not follow -/
  | stray
deriving DecidableEq, Repr

namespace Nest

/-- Goes past a character that starts a construct or a member of a class. -/
def plain (d k : ℕ) (c : Char) : Nest :=
  if c = '\\' then .escape d k
  else if c = '[' then .start d (k + 1)
  else if k = 0 then
    if c = '(' then .opened d
    else if c = ')' then if d = 0 then .stray else .text (d - 1) 0
    else .text d 0
  else if c = ']' then .text d (k - 1)
  else if c = '-' then .dash d k
  else .text d k

/-- Goes past a character. -/
def next : Nest → Char → Nest
  | text d k, c => plain d k c
  | dash d k, c => if c = '-' then .text d k else if c = '[' then .stray else plain d k c
  | escape d k, c => if c = 'p' ∨ c = 'P' then .letter d k else .text d k
  | letter d k, c => if c = '\x7b' then .property d k else .text d k
  | property d k, c => if c = '\x7d' then .text d k else .property d k
  | start d k, c =>
    if c = '^' then .caret d k else if c = ']' then .text d k else plain d k c
  | caret d k, c => if c = ']' then .text d k else plain d k c
  | opened d, c => if c = '?' then .header d else plain (d + 1) 0 c
  | header d, c =>
    if c = '<' then .name d
    else if c = ':' then .text (d + 1) 0
    else if c = ')' then .text d 0
    else if c = 'x' then .stray
    else .header d
  | name d, c => if c = '>' then .text (d + 1) 0 else .name d
  | stray, _ => .stray

/-- From a state of the scan, a text closes all that is open. -/
def Closes (n : Nest) (x : Text) : Prop :=
  x.foldl next n = .text 0 0

instance (n : Nest) (x : Text) : Decidable (Closes n x) := by
  unfold Closes
  infer_instance

end Nest

/-- A text that closes all that it opens, and nothing else. It sets no verbose mode. -/
def Sealed (x : Text) : Prop :=
  (Nest.text 0 0).Closes x

instance (x : Text) : Decidable (Sealed x) := by
  unfold Sealed
  infer_instance

open Nest

section
variable {n : Nest} {d k : ℕ} {f : Flags} {x v rest : Text} {q : Char → Bool}

namespace Nest

theorem closes_cons {c : Char} : n.Closes (c :: x) ↔ (n.next c).Closes x :=
  Iff.rfl

theorem not_closes_stray : ¬ stray.Closes x := by
  intro h
  have hstray : x.foldl next stray = stray := by
    induction x with
    | nil => rfl
    | cons c x ih => exact ih h
  rw [Closes, hstray] at h
  cases h

/-- What a name or a property is closed by. -/
theorem Closes.until {m : Nest} {e : Char} (h : n.Closes x)
    (hn : ∀ c, n.next c = if c = e then m else n) (hne : n ≠ .text 0 0) :
    ∃ name w, x = name ++ e :: w ∧ e ∉ name ∧ m.Closes w := by
  induction x with
  | nil => exact absurd h hne
  | cons c x ih =>
    rw [closes_cons, hn] at h
    split_ifs at h with hc
    · exact ⟨[], x, by rw [hc]; rfl, List.not_mem_nil, h⟩
    · obtain ⟨name, w, rfl, hmem, hw⟩ := ih h
      refine ⟨c :: name, w, rfl, fun hm => ?_, hw⟩
      rcases List.mem_cons.1 hm with rfl | hm
      · exact hc rfl
      · exact hmem hm

/-! ## What is passed over -/

/-- What is passed over consists of certain characters. -/
def Passes (q : Char → Bool) (t rest : Text) : Prop :=
  ∃ p, t = p ++ rest ∧ ∀ c ∈ p, q c

namespace Passes

variable {t u : Text} {c : Char}

theorem refl : Passes q t t :=
  ⟨[], rfl, fun _ h => nomatch h⟩

theorem trans (h : Passes q t u) (h' : Passes q u rest) : Passes q t rest := by
  obtain ⟨p, rfl, hp⟩ := h
  obtain ⟨p', rfl, hp'⟩ := h'
  refine ⟨p ++ p', (List.append_assoc ..).symm, fun c hc => ?_⟩
  exact (List.mem_append.1 hc).elim (hp c) (hp' c)

theorem cons (hc : q c) (h : Passes q t rest) : Passes q (c :: t) rest := by
  obtain ⟨p, rfl, hp⟩ := h
  exact ⟨c :: p, rfl, List.forall_mem_cons.2 ⟨hc, hp⟩⟩

theorem dropWhile {p : Char → Bool} (h : ∀ c, p c → q c) (t : Text) :
    Passes q t (t.dropWhile p) :=
  ⟨t.takeWhile p, List.takeWhile_append_dropWhile.symm,
    fun c hc => h c (List.mem_takeWhile_imp hc)⟩

end Passes

/-- Characters that mean nothing to the scan do not lead over the parenthesis behind. -/
theorem Closes.pass (h : (Nest.text d k).Closes x)
    (hq : ∀ c, q c → (Nest.text d k).next c = .text d k ∧ c ≠ ')')
    (hp : Passes q (x ++ ')' :: v) rest) : ∃ w, rest = w ++ ')' :: v ∧ (Nest.text d k).Closes w := by
  obtain ⟨p, he, hp⟩ := hp
  induction p generalizing x with
  | nil => exact ⟨x, he.symm, h⟩
  | cons c p ih =>
    obtain ⟨hnext, hne⟩ := hq c (hp c (List.mem_cons_self ..))
    match x with
    | [] => exact absurd (List.cons.inj he).1.symm hne
    | e :: x =>
      rw [List.cons_append, List.cons_append, List.cons.injEq] at he
      obtain ⟨rfl, he⟩ := he
      rw [closes_cons, hnext] at h
      exact ih h he fun c hc => hp c (List.mem_cons_of_mem e hc)

end Nest

theorem skip_of_not_verbose (hf : f.verbose = false) (t : Text) : skip f t = t := by
  unfold skip
  rw [hf]
  rfl

/-- Characters that mean nothing to the scan, in a class or not. -/
theorem next_of_quiet (hq : ("()[]\\-".toList.all fun c => !q c) = true) {c : Char} (hc : q c) :
    (Nest.text d k).next c = .text d k ∧ c ≠ ')' := by
  have hne : ∀ e ∈ "()[]\\-".toList, c ≠ e := by
    rintro e he rfl
    have := List.all_eq_true.1 hq c he
    rw [hc] at this
    cases this
  refine ⟨?_, hne ')' (by decide)⟩
  show plain d k c = _
  unfold plain
  rw [if_neg (hne '\\' (by decide)), if_neg (hne '[' (by decide)), if_neg (hne '(' (by decide)),
    if_neg (hne ')' (by decide)), if_neg (hne ']' (by decide)), if_neg (hne '-' (by decide))]
  split_ifs with hk
  · rw [hk]
  · rfl

/-! ## Escape sequences -/

/-- Hexadecimal digits, and the braces around them. -/
def isHexPart (c : Char) : Bool :=
  (Text.hexValue? c).isSome || c = '\x7b' || c = '\x7d'

theorem readDigits_passes (hf : f.verbose = false) {m count : ℕ} {c : Char} {t : Text}
    (h : readDigits f m count t = .ok (c, rest)) : Passes isHexPart t rest := by
  induction count generalizing m t with
  | zero =>
    rw [readDigits] at h
    split at h
    · cases h
      rw [skip_of_not_verbose hf]
      exact .refl
    · cases h
  | succ count ih =>
    rw [readDigits, skip_of_not_verbose hf] at h
    split at h
    · cases h
    · split at h
      case h_1 hd => exact .cons (by simp [isHexPart, hd]) (ih h)
      case h_2 => cases h

theorem readBraced_passes (hf : f.verbose = false) {m fuel : ℕ} {any : Bool} {c : Char} {t : Text}
    (h : readBraced f m any fuel t = .ok (c, rest)) : Passes isHexPart t rest := by
  induction fuel generalizing m any t with
  | zero => cases h
  | succ fuel ih =>
    rw [readBraced, skip_of_not_verbose hf] at h
    split at h
    · cases h
    case h_2 d t =>
      split_ifs at h with hd
      · split at h
        · cases h
          rw [skip_of_not_verbose hf]
          exact .cons (by simp [isHexPart, hd]) .refl
        · cases h
      · split at h
        case h_1 hx => exact .cons (by simp [isHexPart, hx]) (ih h)
        case h_2 => cases h

theorem readHex_passes (hf : f.verbose = false) {c : Char} {a : Atom} {t : Text}
    (h : readHex f c t = .ok (a, rest)) : Passes isHexPart t rest := by
  unfold readHex at h
  rw [skip_of_not_verbose hf] at h
  split at h
  · cases h
  case h_2 d t =>
    split_ifs at h with hd
    all_goals
      obtain ⟨⟨v, w⟩, hr, he⟩ := map_eq_ok.1 h
      cases he
    · exact .cons (by simp [isHexPart, hd]) (readBraced_passes hf hr)
    all_goals exact readDigits_passes hf hr

/-- A name of a property ends at the first closing brace. -/
theorem readName_rest (hf : f.verbose = false) {name acc t found : Text} {fuel : ℕ}
    (hn : '\x7d' ∉ name) (h : readName f acc fuel (name ++ '\x7d' :: t) = .ok (found, rest)) :
    rest = t := by
  induction fuel generalizing name acc with
  | zero => cases h
  | succ fuel ih =>
    rw [readName, skip_of_not_verbose hf] at h
    cases name with
    | nil =>
      cases h
      rfl
    | cons c name =>
      dsimp only [List.cons_append] at h
      have hc : c ≠ '\x7d' := by
        rintro rfl
        exact hn (List.mem_cons_self ..)
      rw [if_neg hc] at h
      exact ih (fun hm => hn (List.mem_cons_of_mem _ hm)) h

theorem readProperty_sealed (hf : f.verbose = false) {negated : Bool} {a : Atom}
    (hx : (Nest.letter d k).Closes x)
    (h : readProperty f negated (x ++ ')' :: v) = .ok (a, rest)) :
    ∃ w, rest = w ++ ')' :: v ∧ (Nest.text d k).Closes w := by
  unfold readProperty at h
  rw [skip_of_not_verbose hf] at h
  match x with
  | [] => cases hx
  | c :: x =>
    rw [closes_cons, Nest.next] at hx
    dsimp only [List.cons_append] at h
    split_ifs at h with hc he
    · obtain ⟨⟨name, t⟩, hname, h⟩ := bind_eq_ok.1 h
      obtain ⟨s, -, heq⟩ := map_eq_ok.1 h
      obtain ⟨rfl, rfl⟩ := Prod.mk.inj heq
      rw [if_pos hc] at hx
      obtain ⟨part, w, rfl, hpart, hw⟩ := hx.until (fun _ => rfl) (by rintro ⟨⟩)
      rw [List.append_assoc] at hname
      exact ⟨w, readName_rest hf hpart hname, hw⟩
    · obtain ⟨s, -, heq⟩ := map_eq_ok.1 h
      obtain ⟨rfl, rfl⟩ := Prod.mk.inj heq
      rw [if_neg hc] at hx
      exact ⟨x, skip_of_not_verbose hf _, hx⟩

/-- What stands in the name of an edge, and the braces around it. -/
def isEdgePart (c : Char) : Bool :=
  isEdgeChar c || c = '\x7b' || c = '\x7d'

theorem readEdgeName_passes (hf : f.verbose = false) (acc : Text) (fuel : ℕ) (t : Text) :
    Passes isEdgePart t (readEdgeName f acc fuel t).2 := by
  induction fuel generalizing acc t with
  | zero => exact .refl
  | succ fuel ih =>
    cases t with
    | nil => exact .refl
    | cons c t =>
      rw [readEdgeName]
      split_ifs with hc
      · rw [skip_of_not_verbose hf]
        exact .cons (by simp [isEdgePart, hc]) (ih _ _)
      · exact .refl

theorem readEdge_passes (hf : f.verbose = false) {e : WordEdge} {t : Text}
    (h : readEdge f t = .ok (e, rest)) : Passes isEdgePart t rest := by
  cases readEdge_eq_ok.1 h with
  | plain | braced => exact .refl
  | @named t c more name _ _ hs _ hn =>
    rw [skip_of_not_verbose hf] at hs
    subst hs
    have hname := readEdgeName_passes hf [] (more.length + 1) (c :: more)
    rw [hn] at hname
    exact .cons (by decide) (hname.trans (.cons (by decide) .refl))

/-- Outside of classes, the name of an edge means nothing to the scan. -/
theorem next_of_isEdgePart {c : Char} (hc : isEdgePart c) :
    (Nest.text d 0).next c = .text d 0 ∧ c ≠ ')' := by
  have hall : "()[\\".toList.all (fun c => !isEdgePart c) = true := by decide
  have hne : ∀ e ∈ "()[\\".toList, c ≠ e := by
    rintro e he rfl
    have := List.all_eq_true.1 hall c he
    rw [hc] at this
    cases this
  refine ⟨?_, hne ')' (by decide)⟩
  show plain d 0 c = _
  unfold plain
  rw [if_neg (hne '\\' (by decide)), if_neg (hne '[' (by decide)), if_pos rfl,
    if_neg (hne '(' (by decide)), if_neg (hne ')' (by decide))]

/-- An escape sequence. In a class there are no edges of words. -/
theorem readEscape_sealed (hf : f.verbose = false) {a : Atom} (hx : (Nest.escape d k).Closes x)
    (hk : k = 0 ∨ ∀ l, a ≠ .look l) (h : readEscape f (x ++ ')' :: v) = .ok (a, rest)) :
    ∃ w, rest = w ++ ')' :: v ∧ (Nest.text d k).Closes w := by
  match x with
  | [] => cases hx
  | c :: x =>
    rw [closes_cons, Nest.next] at hx
    rw [List.cons_append, readEscape_cons] at h
    by_cases hprop : Escape.of f c = .property
    · rw [if_pos (Escape.of_eq_property.1 hprop)] at hx
      rw [hprop] at h
      exact readProperty_sealed hf hx h
    rw [if_neg fun hc => hprop (Escape.of_eq_property.2 hc)] at hx
    cases he : Escape.of f c with
    | property => exact absurd he hprop
    | hex =>
      rw [he] at h
      exact hx.pass (fun _ => next_of_quiet (by decide)) (readHex_passes hf h)
    | edge =>
      rw [he] at h
      obtain ⟨⟨e, t⟩, hedge, heq⟩ := map_eq_ok.1 h
      obtain ⟨rfl, rfl⟩ := Prod.mk.inj heq
      obtain rfl | hlook := hk
      · exact hx.pass (fun _ => next_of_isEdgePart) (readEdge_passes hf hedge)
      · exact absurd rfl (hlook _)
    | single =>
      rw [he] at h
      obtain ⟨_, -, heq⟩ := map_eq_ok.1 h
      exact ⟨x, (Prod.mk.inj heq).2.symm, hx⟩

end

end PathRouting.Regex
