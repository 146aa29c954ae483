/-
  The units of a regular expression: a backslash with the character behind it,
  or any other character.

  * `Behind t u`: the text `u` is what is left of `t` behind some of its units.
  * `groupCount_le`: no parenthesis is counted behind that is not counted in the
    whole.
  * The lemmas on `skip`, flags and numbers: what they leave is behind the units
    that they have read.
-/
import PathRouting.Pattern.Token
import PathRouting.Regex.Reader
import Mathlib.Data.List.TakeWhile

namespace PathRouting

open Pattern

/-- A text lies behind whole units of another one. A backslash at the end of a
    text counts as a unit. -/
inductive Behind : Text → Text → Prop
  | refl {t} : Behind t t
  | char {c t u} : c ≠ '\\' → Behind t u → Behind (c :: t) u
  | escape {c t u} : Behind t u → Behind ('\\' :: c :: t) u
  | last : Behind ['\\'] []

namespace Behind

theorem trans {t u v : Text} (h : Behind t u) (h' : Behind u v) : Behind t v := by
  induction h with
  | refl => exact h'
  | char hc _ ih => exact .char hc (ih h')
  | escape _ ih => exact .escape (ih h')
  | last =>
    cases h'
    exact .last

theorem length_le {t u : Text} (h : Behind t u) : u.length ≤ t.length := by
  induction h with
  | refl => exact Nat.le_refl _
  | char _ _ ih => simp only [List.length_cons]; omega
  | escape _ ih => simp only [List.length_cons]; omega
  | last => simp

/-- Of two texts behind units of the same one, the shorter is behind units of the
    longer. -/
theorem of_length_le {t u v : Text} (hu : Behind t u) (hv : Behind t v)
    (h : u.length ≤ v.length) : Behind v u := by
  induction hv with
  | refl => exact hu
  | char hc hv ih =>
    have hl := hv.length_le
    cases hu with
    | refl => simp only [List.length_cons] at h; omega
    | char _ hu => exact ih hu h
    | escape => exact absurd rfl hc
    | last => exact absurd rfl hc
  | escape hv ih =>
    have hl := hv.length_le
    cases hu with
    | refl => simp only [List.length_cons] at h; omega
    | char hc => exact absurd rfl hc
    | escape hu => exact ih hu h
  | last =>
    cases hu with
    | refl => simp at h
    | char hc => exact absurd rfl hc
    | last => exact .refl

theorem suffix {t u : Text} (h : Behind t u) : u <:+ t := by
  induction h with
  | refl => exact List.suffix_refl _
  | char _ _ ih => exact ih.trans (List.suffix_cons _ _)
  | escape _ ih => exact ih.trans ((List.suffix_cons _ _).trans (List.suffix_cons _ _))
  | last => exact List.nil_suffix

theorem of_cons {c : Char} {t : Text} (hc : c ≠ '\\') : Behind (c :: t) t := .char hc .refl

theorem drop_cons {c : Char} {t u : Text} (hc : c ≠ '\\') (h : Behind (c :: t) u) (hne : u ≠ c :: t) :
    Behind t u := by
  cases h with
  | refl => exact absurd rfl hne
  | char _ h => exact h
  | escape => exact absurd rfl hc
  | last => exact absurd rfl hc

/-- Characters that are no backslashes are units. -/
theorem of_append {s : Text} (hs : '\\' ∉ s) (t : Text) : Behind (s ++ t) t := by
  induction s with
  | nil => exact .refl
  | cons c s ih =>
    rw [List.mem_cons, not_or] at hs
    exact .char (Ne.symm hs.1) (ih hs.2)

theorem dropWhile {p : Char → Bool} {t : Text} (hp : ∀ c ∈ t.takeWhile p, c ≠ '\\') :
    Behind t (t.dropWhile p) := by
  have := of_append (fun h => hp _ h rfl) (t.dropWhile p)
  rwa [List.takeWhile_append_dropWhile] at this

end Behind

/-! ## Results of readers -/

theorem bind_eq_ok {ε α β : Type} {x : Except ε α} {f : α → Except ε β} {b : β} :
    x.bind f = .ok b ↔ ∃ a, x = .ok a ∧ f a = .ok b := by
  cases x with
  | error e => exact ⟨fun h => (nomatch h), fun ⟨_, h, _⟩ => (nomatch h)⟩
  | ok a =>
    refine ⟨fun h => ⟨a, rfl, h⟩, ?_⟩
    rintro ⟨_, h, hf⟩
    cases h
    exact hf

theorem map_eq_ok {ε α β : Type} {x : Except ε α} {f : α → β} {b : β} :
    x.map f = .ok b ↔ ∃ a, x = .ok a ∧ f a = b := by
  cases x with
  | error e => exact ⟨fun h => (nomatch h), fun ⟨_, h, _⟩ => (nomatch h)⟩
  | ok a =>
    refine ⟨fun h => ⟨a, rfl, ?_⟩, ?_⟩
    · cases h; rfl
    · rintro ⟨_, h, rfl⟩
      cases h
      rfl

/-- Of a pair, a map keeps the second part. -/
theorem map_fst_eq_ok {ε α β γ : Type} {x : Except ε (α × γ)} {f : α → β} {b : β} {c : γ}
    (h : x.map (fun p => (f p.1, p.2)) = .ok (b, c)) : ∃ a, x = .ok (a, c) ∧ b = f a := by
  obtain ⟨⟨a, _⟩, ha, he⟩ := map_eq_ok.1 h
  obtain ⟨rfl, rfl⟩ := Prod.mk.inj he
  exact ⟨a, ha, rfl⟩

theorem map_congr_ok {ε α β : Type} {x : Except ε α} {f g : α → β}
    (h : ∀ a, x = .ok a → f a = g a) : x.map f = x.map g := by
  cases x with
  | error e => rfl
  | ok a => exact congrArg Except.ok (h a rfl)

theorem eq_ok_of_toOption {ε α : Type} {x : Except ε α} {a : α} (h : x.toOption = some a) :
    x = .ok a := by
  cases x with
  | error => cases h
  | ok b => cases h; rfl

theorem exists_of_isOk {ε α : Type} {x : Except ε α} (h : x.isOk) : ∃ a, x = .ok a := by
  cases x with
  | error e => cases h
  | ok a => exact ⟨a, rfl⟩

/-! ## Counted parentheses -/

theorem opensGroup_of_ne {c : Char} (hc : c ≠ '?') (t : Text) : opensGroup (c :: t) := by
  unfold opensGroup
  split
  all_goals first | rfl | (rename_i he; cases he; exact absurd rfl hc)

theorem opensGroup_eq_false {t : Text} (hp : ∀ u, t ≠ 'P' :: '<' :: u) (hl : ∀ u, t ≠ '<' :: u) :
    opensGroup ('?' :: t) = false := by
  unfold opensGroup
  split
  case h_1 he => cases he; exact absurd rfl (hp _)
  case h_4 he => cases he; exact absurd rfl (hl _)
  case h_6 h => exact absurd rfl (h t)
  all_goals rfl

theorem opensGroup_of_name {t : Text} (he : ∀ u, t ≠ '=' :: u) (hn : ∀ u, t ≠ '!' :: u) :
    opensGroup ('?' :: '<' :: t) := by
  unfold opensGroup
  split
  case h_2 h => cases h; exact absurd rfl (he _)
  case h_3 h => cases h; exact absurd rfl (hn _)
  case h_5 h he => cases he; exact absurd rfl (h _)
  all_goals rfl

/-- What a parenthesis opens is decided before the next closing one. -/
theorem opensGroup_append (t u : Text) : opensGroup (t ++ ')' :: u) = opensGroup t := by
  match t with
  | [] => rfl
  | a :: t =>
    by_cases ha : a = '?'
    case neg => rw [List.cons_append, opensGroup_of_ne ha, opensGroup_of_ne ha]
    subst ha
    match t with
    | [] => rfl
    | b :: t =>
      by_cases hb : b = 'P'
      · subst hb
        match t with
        | [] => rfl
        | c :: t =>
          by_cases hc : c = '<'
          · subst hc; rfl
          · rw [List.cons_append, List.cons_append, List.cons_append,
              opensGroup_eq_false (fun v h => hc (by cases h; rfl))
                (fun v h => absurd (List.cons.inj h).1 (by decide)),
              opensGroup_eq_false (fun v h => hc (by cases h; rfl))
                (fun v h => absurd (List.cons.inj h).1 (by decide))]
      by_cases hl : b = '<'
      · subst hl
        match t with
        | [] => rfl
        | c :: t =>
          by_cases he : c = '='
          · subst he; rfl
          by_cases hn : c = '!'
          · subst hn; rfl
          rw [List.cons_append, List.cons_append, List.cons_append,
            opensGroup_of_name (fun v h => he (by cases h; rfl)) (fun v h => hn (by cases h; rfl)),
            opensGroup_of_name (fun v h => he (by cases h; rfl)) (fun v h => hn (by cases h; rfl))]
      · rw [List.cons_append, List.cons_append,
          opensGroup_eq_false (fun v h => hb (List.cons.inj h).1) (fun v h => hl (List.cons.inj h).1),
          opensGroup_eq_false (fun v h => hb (List.cons.inj h).1) (fun v h => hl (List.cons.inj h).1)]

theorem groupCount_cons {c : Char} (hc : c ≠ '\\') (t : Text) :
    groupCount (c :: t) = (if c = '(' && opensGroup t then 1 else 0) + groupCount t := by
  rw [groupCount]
  · rintro rfl; exact absurd rfl hc
  · rintro d u rfl; exact absurd rfl hc

theorem groupCount_escape (c : Char) (t : Text) : groupCount ('\\' :: c :: t) = groupCount t := by
  rw [groupCount]

theorem groupCount_cons_of_ne {c : Char} (hc : c ≠ '\\') (hp : c ≠ '(') (t : Text) :
    groupCount (c :: t) = groupCount t := by
  simp [groupCount_cons hc, hp]

theorem groupCount_le {t u : Text} (h : Behind t u) : groupCount u ≤ groupCount t := by
  induction h with
  | refl => exact Nat.le_refl _
  | char hc _ ih => rw [groupCount_cons hc]; omega
  | escape _ ih => rw [groupCount_escape]; exact ih
  | last => exact Nat.zero_le _

/-- A parenthesis between two places adds to the count. -/
theorem groupCount_lt {t u v : Text} (h : Behind t ('(' :: u)) (ho : opensGroup u)
    (hv : Behind t v) (hl : v.length ≤ u.length) : groupCount v < groupCount t := by
  have h1 := groupCount_le h
  have hv' : Behind ('(' :: u) v := hv.of_length_le h (by simp only [List.length_cons]; omega)
  have h2 := groupCount_le (hv'.drop_cons (by decide) (by rintro rfl; simp only [List.length_cons] at hl; omega))
  rw [groupCount_cons (by decide)] at h1
  simp only [decide_true, ho, Bool.and_self, if_true] at h1
  omega

/-! ## Escaped text -/

namespace Regex

theorem escape_cons (c : Char) (t : Text) :
    escape (c :: t) = (if isMeta c then ['\\', c] else [c]) ++ escape t := rfl

/-- Escaped text does not start with a question mark. -/
theorem head?_escape_ne (t : Text) : (escape t).head? ≠ some '?' := by
  cases t with
  | nil => exact fun h => (nomatch h)
  | cons c t =>
    rw [escape_cons]
    split_ifs with hc
    · exact fun h => absurd (Option.some.inj h) (by decide)
    · intro he
      cases he
      exact hc (by decide)

end Regex

end PathRouting
