/-
  Reading a regular expression unit by unit.

  Whatever the reader of regular expressions reads at one go, ends where a unit
  ends, if it starts where one starts. There is one lemma for each of its
  functions; it says that what is left is behind units of what was given.

  * `Reader.step_behind`: this holds of a construct as a whole.
-/
import PathRouting.Proofs.Regex.Constructs
import PathRouting.Proofs.Unicode.Names

namespace PathRouting.Regex

open Unicode

/-! ## White space and flags -/

theorem ne_backslash_of_isBlank {c : Char} (h : Text.isBlank c) : c ≠ '\\' := by
  rintro rfl; revert h; decide

theorem ne_backslash_of_isDigit {c : Char} (h : Text.isDigit c) : c ≠ '\\' := by
  rintro rfl; revert h; decide

theorem ne_backslash_of_hexValue {c : Char} {d : ℕ} (h : Text.hexValue? c = some d) : c ≠ '\\' := by
  rintro rfl
  rw [show Text.hexValue? '\\' = none by decide] at h
  cases h

theorem dropWhile_isBlank_behind (t : Text) : Behind t (t.dropWhile Text.isBlank) :=
  .dropWhile fun _ hc => ne_backslash_of_isBlank (List.mem_takeWhile_imp hc)

/-- A comment may hold a backslash, whose unit ends with it or with the comment. -/
theorem skip_behind_of_length (n : ℕ) : ∀ t : Text, t.length ≤ n →
    Behind t (skipBlank t) ∧ Behind t (skipComment t) := by
  induction n with
  | zero =>
    intro t ht
    rw [List.length_eq_zero_iff.1 (by omega : t.length = 0)]
    exact ⟨.refl, .refl⟩
  | succ n ih =>
    intro t ht
    match t with
    | [] => exact ⟨.refl, .refl⟩
    | c :: rest =>
      have hr := ih rest (by simp only [List.length_cons] at ht; omega)
      refine ⟨?_, ?_⟩
      · rw [skipBlank]
        split_ifs with hb hc
        · exact .char (ne_backslash_of_isBlank hb) hr.1
        · exact .char (by rw [hc]; decide) hr.2
        · exact .refl
      · by_cases hc : c = '\\'
        · subst hc
          match rest with
          | [] => exact .last
          | d :: rest =>
            have hr := ih rest (by simp only [List.length_cons] at ht; omega)
            rw [skipComment, if_neg (by decide), skipComment]
            split_ifs
            · exact .escape hr.1
            · exact .escape hr.2
        · rw [skipComment]
          split_ifs
          · exact .char hc hr.1
          · exact .char hc hr.2

theorem skip_behind (f : Flags) (t : Text) : Behind t (skip f t) := by
  unfold skip
  split_ifs
  · exact (skip_behind_of_length t.length t (Nat.le_refl _)).1
  · exact .refl

/-- What follows a character behind what may be skipped. -/
theorem behind_of_skip {f : Flags} {t u : Text} {c : Char} (h : skip f t = c :: u) (hc : c ≠ '\\') :
    Behind t u :=
  (skip_behind f t).trans (h ▸ .of_cons hc)

theorem ne_backslash_of_put {f f' : Flags} {c : Char} {v : Bool} (h : f.put c v = some f') :
    c ≠ '\\' := by
  rintro rfl
  simp [Flags.put] at h

theorem Flags.readFrom_behind {f : Flags} {seen t : Text} {r : Flags × Bool × Text}
    (h : f.readFrom seen t = .ok r) : Behind t r.2.2 := by
  induction t generalizing f seen with
  | nil => simp [Flags.readFrom] at h
  | cons c rest ih =>
    rw [Flags.readFrom] at h
    split at h
    case isTrue hc =>
      split at h
      · cases h
      · cases h
        exact .of_cons (by rcases hc with rfl | rfl <;> decide)
    case isFalse =>
      split at h
      · cases h
      split at h
      case isTrue hc => exact .char (by rw [hc]; decide) (ih h)
      case isFalse =>
        split at h
        case h_1 hp => exact .char (ne_backslash_of_put hp) (ih h)
        case h_2 => cases h

/-! ## Escape sequences -/

section
variable {f : Flags} {t rest : Text}

theorem readDigits_behind {n count : ℕ} {c : Char} (h : readDigits f n count t = .ok (c, rest)) :
    Behind t rest := by
  induction count generalizing n t with
  | zero =>
    rw [readDigits] at h
    split at h <;> cases h
    exact skip_behind f t
  | succ count ih =>
    rw [readDigits] at h
    split at h
    · cases h
    split at h
    case h_1 hs _ _ hd => exact (behind_of_skip hs (ne_backslash_of_hexValue hd)).trans (ih h)
    case h_2 => cases h

theorem readBraced_behind {n fuel : ℕ} {any : Bool} {c : Char}
    (h : readBraced f n any fuel t = .ok (c, rest)) : Behind t rest := by
  induction fuel generalizing n any t with
  | zero => cases h
  | succ fuel ih =>
    rw [readBraced] at h
    split at h
    · cases h
    case h_2 hs =>
      split at h
      case isTrue hc =>
        split at h <;> cases h
        exact (behind_of_skip hs (by rw [hc]; decide)).trans (skip_behind f _)
      case isFalse =>
        split at h
        case h_1 hd => exact (behind_of_skip hs (ne_backslash_of_hexValue hd)).trans (ih h)
        case h_2 => cases h

theorem readHex_behind {c : Char} {a : Atom} (h : readHex f c t = .ok (a, rest)) :
    Behind t rest := by
  unfold readHex at h
  split at h
  · cases h
  case h_2 hs =>
    split at h
    case isTrue hd =>
      obtain ⟨⟨_, _⟩, hb, he⟩ := map_eq_ok.1 h
      cases he
      exact (behind_of_skip hs (by rw [hd]; decide)).trans (readBraced_behind hb)
    case isFalse =>
      obtain ⟨⟨_, _⟩, hd, he⟩ := map_eq_ok.1 h
      cases he
      exact (hs ▸ skip_behind f t).trans (readDigits_behind hd)

theorem mem_of_readName {name acc : Text} {fuel : ℕ} (h : readName f acc fuel t = .ok (name, rest))
    {c : Char} (hc : c ∈ acc) : c ∈ name := by
  induction fuel generalizing acc t with
  | zero => cases h
  | succ fuel ih =>
    rw [readName] at h
    split at h
    · cases h
    split_ifs at h
    · cases h; exact List.mem_reverse.2 hc
    · exact ih h (List.mem_cons_of_mem _ hc)

/-- A name may hold any characters; those that name a property are no
    backslashes. -/
theorem readName_behind {name acc : Text} {fuel : ℕ} (h : readName f acc fuel t = .ok (name, rest))
    (hn : '\\' ∉ name) : Behind t rest := by
  induction fuel generalizing acc t with
  | zero => cases h
  | succ fuel ih =>
    rw [readName] at h
    split at h
    · cases h
    case h_2 hs =>
      split_ifs at h with hc
      · cases h
        exact behind_of_skip hs (by rw [hc]; decide)
      · refine (behind_of_skip hs ?_).trans (ih h)
        rintro rfl
        exact hn (mem_of_readName h (List.mem_cons_self ..))

theorem append_of_splitAt {mark a b : Text} (h : splitAt? mark t = some (a, b)) :
    t = a ++ mark ++ b := by
  induction t generalizing a with
  | nil => cases h
  | cons c t ih =>
    rw [splitAt?] at h
    split_ifs at h with hm
    · obtain ⟨u, hu⟩ := List.isPrefixOf_iff_prefix.1 hm
      cases h
      rw [← hu, List.drop_left, List.nil_append]
    · obtain ⟨⟨a', b'⟩, h', he⟩ := Option.map_eq_some_iff.1 h
      cases he
      rw [ih h']
      rfl

theorem not_mem_of_queryOf {name : Text} (h : ∀ n ∈ (queryOf name).names, '\\' ∉ n) :
    '\\' ∉ name := by
  unfold queryOf at h
  simp only at h
  split at h
  case h_1 n v hp =>
    obtain ⟨mark, hm, hs⟩ := List.exists_of_findSome?_eq_some hp
    rw [append_of_splitAt hs]
    have hmark : '\\' ∉ mark.toList := by
      simp only [List.mem_cons, List.not_mem_nil, or_false] at hm
      rcases hm with rfl | rfl | rfl <;> decide
    simp only [PropertyQuery.names, List.mem_cons, List.not_mem_nil, or_false, forall_eq_or_imp,
      forall_eq] at h
    simp only [List.mem_append, not_or]
    exact ⟨⟨h.1, hmark⟩, h.2⟩
  case h_2 => simpa [PropertyQuery.names] using h

theorem not_mem_of_classOfProperty {negated : Bool} {q : PropertyQuery} {s : CharSet}
    (h : classOfProperty f negated q = .ok s) : ∀ n ∈ q.names, '\\' ∉ n := by
  unfold classOfProperty at h
  split at h
  · cases h
  split at h
  · cases h
  case h_2 ht => exact PropertyQuery.not_mem_of_table ht

theorem readProperty_behind {negated : Bool} {a : Atom}
    (h : readProperty f negated t = .ok (a, rest)) : Behind t rest := by
  unfold readProperty at h
  split at h
  · cases h
  case h_2 hs =>
    split_ifs at h with hb hc
    · obtain ⟨⟨name, _⟩, hn, h⟩ := bind_eq_ok.1 h
      obtain ⟨_, hq, he⟩ := map_eq_ok.1 h
      cases he
      have := not_mem_of_queryOf (not_mem_of_classOfProperty hq)
      exact (behind_of_skip hs (by rw [hb]; decide)).trans (readName_behind hn this)
    · obtain ⟨_, -, he⟩ := map_eq_ok.1 h
      cases he
      exact (behind_of_skip hs hc).trans (skip_behind f _)

theorem readEdgeName_behind (f : Flags) (name : Text) (fuel : ℕ) (t : Text) :
    Behind t (readEdgeName f name fuel t).2 := by
  induction fuel generalizing name t with
  | zero => exact .refl
  | succ fuel ih =>
    match t with
    | [] => exact .refl
    | c :: rest =>
      rw [readEdgeName]
      split_ifs with hc
      · refine .char ?_ ((skip_behind f rest).trans (ih _ _))
        rintro rfl
        revert hc
        decide
      · exact .refl

theorem readEdge_behind {e : WordEdge} (h : readEdge f t = .ok (e, rest)) : Behind t rest := by
  cases readEdge_eq_ok.1 h with
  | plain | braced => exact .refl
  | @named t c more name _ _ hs _ hn =>
    have hb := readEdgeName_behind f [] (more.length + 1) (c :: more)
    rw [hn] at hb
    exact .char (by decide) ((hs ▸ skip_behind f t).trans (hb.trans (.of_cons (by decide))))

/-- The character behind the backslash is read in any case. -/
theorem readEscape_cons_behind {a : Atom} {c : Char} (h : readEscape f (c :: t) = .ok (a, rest)) :
    Behind t rest := by
  rw [readEscape_cons] at h
  generalize Escape.of f c = e at h
  cases e with
  | hex => exact readHex_behind h
  | property => exact readProperty_behind h
  | edge =>
    obtain ⟨⟨_, _⟩, hr, he⟩ := map_eq_ok.1 h
    cases he
    exact readEdge_behind hr
  | single =>
    obtain ⟨_, -, he⟩ := map_eq_ok.1 h
    cases he
    exact .refl

theorem readEscape_behind {a : Atom} (h : readEscape f t = .ok (a, rest)) :
    Behind ('\\' :: t) rest := by
  match t with
  | [] => cases h
  | c :: more => exact .escape (readEscape_cons_behind h)

end

/-! ## Classes -/

theorem of_lookup {p : String → Bool} {tables : List (String × RangeTable)}
    (ht : tables.all fun t => p t.1) {name : String} {table : RangeTable}
    (h : tables.lookup name = some table) : p name := by
  obtain ⟨l₁, l₂, hl, -⟩ := List.lookup_eq_some_iff.1 h
  exact List.all_eq_true.1 ht (name, table) (by rw [hl]; simp)

theorem plainName_of_namedClass {name : Text} {table : RangeTable}
    (h : namedClass? name = some table) : plainName (String.ofList name) :=
  of_lookup (p := plainName) (by decide +kernel) h

section
variable {f : Flags} {t rest : Text}

theorem readNamedClass_behind {r : Bool × List (ℕ × ℕ) × Text} (h : readNamedClass? t = some r) :
    Behind t r.2.2 := by
  unfold readNamedClass? at h
  split at h
  case h_2 => cases h
  case h_1 t =>
    refine .char (by decide) ?_
    simp only at h
    split at h
    case h_2 => cases h
    case h_1 more hd =>
      obtain ⟨table, ht, he⟩ := Option.map_eq_some_iff.1 h
      cases he
      have hn := not_mem_of_plainName (plainName_of_namedClass ht)
      have hm : ∀ u : Text, u.dropWhile (· ≠ ':') = ':' :: ']' :: more →
          '\\' ∉ u.takeWhile (· ≠ ':') → Behind u more := by
        intro u hu hn
        have hd : Behind u (u.dropWhile (· ≠ ':')) := .dropWhile fun c hc he => hn (he ▸ hc)
        rw [hu] at hd
        exact hd.trans (.char (by decide) (.of_cons (by decide)))
      split_ifs at hd hn with hh
      · match t with
        | [] => cases hh
        | c :: t =>
          cases hh
          exact .char (by decide) (hm t hd hn)
      · exact hm t hd hn

theorem readMember_behind {a : Atom} (h : readMember f t = .ok (a, rest)) : Behind t rest := by
  unfold readMember at h
  split at h
  · cases h
  · exact readEscape_behind h
  case h_3 hc =>
    cases h
    exact .of_cons fun he => hc he

/-- What is left of a range is behind its first member. -/
theorem readRange_member {s : CharSet} (h : readRange f t = .ok (s, rest)) :
    ∃ a u, readMember f t = .ok (a, u) ∧ Behind u rest := by
  cases readRange_eq_ok.1 h with
  | @single a u _ _ _ ha hs => exact ⟨a, u, ha, hs ▸ skip_behind f u⟩
  | @range a u more _ _ _ _ _ ha hs _ _ hs' hb =>
    have hmore : Behind u more := behind_of_skip hs (by decide)
    exact ⟨a, u, ha, hmore.trans ((hs' ▸ skip_behind f more).trans (readMember_behind hb))⟩

theorem readRange_behind {s : CharSet} (h : readRange f t = .ok (s, rest)) : Behind t rest := by
  obtain ⟨a, u, ha, hu⟩ := readRange_member h
  exact (readMember_behind ha).trans hu

theorem readHyphens_behind (f : Flags) (u : ClassUnion) (fuel : ℕ) (t : Text) :
    Behind t (readHyphens f u fuel t).2 := by
  induction fuel generalizing u t with
  | zero => exact .refl
  | succ fuel ih =>
    rw [readHyphens]
    split
    case h_1 hs => exact (behind_of_skip hs (by decide)).trans (ih _ _)
    case h_2 => exact skip_behind f t

theorem openClass_behind (f : Flags) (t : Text) : Behind t (openClass f t).2.2 := by
  unfold openClass
  split
  rename_i negated u hm
  have hu : Behind t u := by
    split at hm
    case h_1 hs =>
      cases hm
      exact (behind_of_skip hs (by decide)).trans (skip_behind f _)
    case h_2 =>
      cases hm
      exact skip_behind f t
  have hr := hu.trans (readHyphens_behind f .empty (u.length + 1) u)
  dsimp only
  split
  case h_1 he => exact hr.trans (he ▸ .of_cons (by decide))
  case h_2 => exact hr

theorem ClassReader.step_behind {r : ClassReader} {result : ClassReader ⊕ CharSet × ℕ}
    (h : r.step f t = .ok (result, rest)) : Behind t rest := by
  cases step_eq_ok.1 h with
  | named hn => exact .char (by decide) (readNamedClass_behind hn)
  | @bracket t => exact .char (by decide) (openClass_behind f t)
  | close => exact .of_cons (by decide)
  | operator op =>
    have hne : op.mark ≠ '\\' := by cases op <;> decide
    exact .char hne (.of_cons hne)
  | member _ _ _ hr => exact readRange_behind hr

theorem ClassReader.run_behind {r : ClassReader} {fuel : ℕ} {whole : CharSet × ℕ}
    (h : r.run f fuel t = .ok (whole, rest)) : Behind t rest := by
  induction fuel generalizing r t with
  | zero => cases h
  | succ fuel ih =>
    rw [ClassReader.run] at h
    obtain ⟨⟨result, u⟩, hs, h⟩ := bind_eq_ok.1 h
    have hu := (skip_behind f t).trans (ClassReader.step_behind hs)
    cases result with
    | inl r' => exact hu.trans (ih h)
    | inr whole =>
      cases h
      exact hu

theorem readClass_behind {whole : CharSet × ℕ} (h : readClass f t = .ok (whole, rest)) :
    Behind t rest :=
  (openClass_behind f t).trans (ClassReader.run_behind h)

end

/-! ## Constructs -/

namespace Reader

section
variable {r r' : Reader} {t rest : Text}

theorem readGreed_behind (t : Text) : Behind t (readGreed t).2 := by
  unfold readGreed
  split
  · exact .of_cons (by decide)
  · exact .refl

theorem readDecimalDigits_behind (f : Flags) (read : Text) (fuel : ℕ) (t : Text) :
    Behind t (readDecimalDigits f read fuel t).2 := by
  induction fuel generalizing read t with
  | zero => exact .refl
  | succ fuel ih =>
    match t with
    | [] => exact .refl
    | c :: rest =>
      rw [readDecimalDigits]
      split_ifs with hc
      · exact .char (ne_backslash_of_isDigit hc) ((skip_behind f rest).trans (ih _ _))
      · exact .refl

/-- The blanks behind the digits of a count. -/
theorem blanks_behind (f : Flags) (t : Text) :
    Behind t (match t with
      | c :: more => if Text.isBlank c then skip f (more.dropWhile Text.isBlank) else t
      | [] => []) := by
  split
  · split_ifs with hb
    · exact .char (ne_backslash_of_isBlank hb)
        ((dropWhile_isBlank_behind _).trans (skip_behind f _))
    · exact .refl
  · exact .refl

theorem readCount_behind {f : Flags} {n : Option ℕ} (h : readCount f t = .ok (n, rest)) :
    Behind t rest := by
  have hd := (dropWhile_isBlank_behind t).trans
    (readDecimalDigits_behind f [] (t.length + 1) (t.dropWhile Text.isBlank))
  unfold readCount at h
  simp only at h
  split_ifs at h <;> cases h <;> exact hd.trans (blanks_behind f _)

theorem readCounts_behind {f : Flags} {counts : ℕ × Option ℕ}
    (h : readCounts f t = .ok (counts, rest)) : Behind t rest := by
  obtain ⟨⟨least, u⟩, hl, h⟩ := bind_eq_ok.1 h
  have hu := (skip_behind f t).trans (readCount_behind hl)
  simp only at h
  split at h
  case h_1 => cases h; exact hu.trans (.of_cons (by decide))
  case h_2 u =>
    have hu := hu.trans (.of_cons (by decide))
    split at h
    case h_1 hs =>
      cases h
      exact hu.trans (behind_of_skip hs (by decide))
    case h_2 =>
      obtain ⟨⟨greatest, v⟩, hg, h⟩ := bind_eq_ok.1 h
      have hv := hu.trans ((skip_behind f u).trans (readCount_behind hg))
      simp only at h
      split at h
      case h_2 => cases h
      case h_1 =>
        split_ifs at h
        cases h
        exact hv.trans (.of_cons (by decide))
  case h_3 => cases h

theorem iterateCounted_behind (h : r.iterateCounted t = .ok (r', rest)) : Behind t rest := by
  obtain ⟨_, _, u, hc, -, rfl⟩ := iterateCounted_eq_ok.1 h
  exact (readCounts_behind hc).trans ((skip_behind r.flags u).trans (readGreed_behind _))

theorem ne_backslash_of_isGroupNameChar {first : Bool} {c : Char}
    (h : isGroupNameChar first c) : c ≠ '\\' := by
  rintro rfl
  have : ∀ b, isGroupNameChar b '\\' = false := by decide +kernel
  rw [this] at h
  cases h

theorem openNamed_behind (h : r.openNamed t = .ok (r', rest)) : Behind t rest := by
  unfold openNamed at h
  split at h
  case h_2 => cases h
  case h_1 c cs _ ht hd =>
    simp only at h
    split_ifs at h with hn
    cases h
    simp only [Bool.not_eq_true', Bool.or_eq_true, not_or, Bool.not_eq_false,
      List.all_eq_true] at hn
    have hb : Behind t (t.dropWhile (· ≠ '>')) := by
      refine .dropWhile fun d hm => ?_
      rw [ht, List.mem_cons] at hm
      rcases hm with rfl | hm
      · exact ne_backslash_of_isGroupNameChar hn.1
      · exact ne_backslash_of_isGroupNameChar (hn.2 d hm)
    rw [hd] at hb
    exact hb.trans (.of_cons (by decide))

theorem openFlags_behind (h : r.openFlags t = .ok (r', rest)) : Behind t rest := by
  obtain ⟨⟨flags, directive, u⟩, hf, he⟩ := map_eq_ok.1 h
  have hu : Behind t u := Flags.readFrom_behind hf
  simp only at he
  split_ifs at he <;> cases he <;> exact hu

theorem openGroup_behind (h : r.openGroup t = .ok (r', rest)) : Behind t rest := by
  have hs := skip_behind r.flags t
  cases openGroup_eq_ok.1 h with
  | marked hm h =>
    rw [hm] at hs
    exact hs.trans (.char (by decide) (.char (by decide) (.char (by decide) (openNamed_behind h))))
  | named hm _ _ h =>
    rw [hm] at hs
    exact hs.trans (.char (by decide) (.char (by decide) (openNamed_behind h)))
  | flags hm h =>
    rw [hm] at hs
    exact hs.trans (.char (by decide) (openFlags_behind h))
  | capture => exact hs

theorem pushAtom_eq {a : Atom} (h : r.pushAtom a = .ok r') :
    ∃ e, ((∃ s, e = .ofSet s) ∨ ∃ l, e = .look l) ∧ r' = r.push e 0 := by
  unfold pushAtom at h
  split at h
  · split_ifs at h
    cases h
    exact ⟨_, .inl ⟨_, rfl⟩, rfl⟩
  · cases h; exact ⟨_, .inr ⟨_, rfl⟩, rfl⟩
  · cases h; exact ⟨_, .inl ⟨_, rfl⟩, rfl⟩

/-- What a construct can do: open or close a group, end an alternative, add an
    item without parts, or repeat the last one. -/
theorem step_cases {c : Char} (h : r.step c t = .ok (r', rest)) :
    (c = '(' ∧ r.openGroup t = .ok (r', rest)) ∨
    (c = ')' ∧ r.closeGroup = .ok r' ∧ rest = t) ∨
    (c = '|' ∧ r' = { r with level := r.level.split } ∧ rest = t) ∨
    (c ≠ '(' ∧ Behind (c :: t) rest ∧
      ((∃ e depth, ((∃ s, e = .ofSet s) ∨ ∃ l, e = .look l) ∧ r' = r.push e depth) ∨
        ∃ min max greedy, r.iterate min max greedy = .ok r')) := by
  rw [step_eq] at h
  generalize hk : Construct.of c = k at h
  have hmark : ∀ {e : Char}, k.mark? = some e → c = e := fun he => Construct.eq_of_mark (hk ▸ he)
  have hne : ∀ {e : Char}, Construct.of e ≠ k → c ≠ e := by
    rintro e he rfl
    exact he hk
  cases k with
  | group => exact .inl ⟨hmark rfl, h⟩
  | close =>
    obtain ⟨_, hg, he⟩ := map_eq_ok.1 h
    cases he
    exact .inr (.inl ⟨hmark rfl, hg, rfl⟩)
  | bar =>
    cases h
    exact .inr (.inr (.inl ⟨hmark rfl, rfl, rfl⟩))
  | set =>
    obtain ⟨⟨_, _⟩, hr, he⟩ := map_eq_ok.1 h
    cases he
    exact .inr (.inr (.inr ⟨hne nofun, .char (hne nofun) (readClass_behind hr),
      .inl ⟨_, _, .inl ⟨_, rfl⟩, rfl⟩⟩))
  | iterate min max =>
    obtain ⟨_, hi, he⟩ := map_eq_ok.1 h
    cases he
    exact .inr (.inr (.inr ⟨hne nofun, .char (hne nofun) (readGreed_behind t), .inr ⟨_, _, _, hi⟩⟩))
  | counts =>
    obtain ⟨_, _, _, -, hi, -⟩ := iterateCounted_eq_ok.1 h
    exact .inr (.inr (.inr ⟨hne nofun, .char (hne nofun) (iterateCounted_behind h),
      .inr ⟨_, _, _, hi⟩⟩))
  | escape =>
    obtain ⟨⟨_, _⟩, hr, h⟩ := bind_eq_ok.1 h
    obtain ⟨_, ha, he⟩ := map_eq_ok.1 h
    cases he
    obtain ⟨e, he, rfl⟩ := pushAtom_eq ha
    obtain rfl : c = '\\' := hmark rfl
    exact .inr (.inr (.inr ⟨hne nofun, readEscape_behind hr, .inl ⟨_, _, he, rfl⟩⟩))
  | dot =>
    obtain ⟨_, -, he⟩ := map_eq_ok.1 h
    cases he
    exact .inr (.inr (.inr ⟨hne nofun, .of_cons (hne nofun), .inl ⟨_, _, .inl ⟨_, rfl⟩, rfl⟩⟩))
  | look l =>
    cases h
    exact .inr (.inr (.inr ⟨hne nofun, .of_cons (hne nofun), .inl ⟨_, _, .inr ⟨_, rfl⟩, rfl⟩⟩))
  | char d =>
    obtain ⟨_, ha, he⟩ := map_eq_ok.1 h
    cases he
    obtain ⟨e, he, rfl⟩ := pushAtom_eq ha
    exact .inr (.inr (.inr ⟨hne nofun, .of_cons (hne nofun), .inl ⟨_, _, he, rfl⟩⟩))

/-- **Units.** A construct ends where a unit of the text ends. -/
theorem step_behind {c : Char} (h : r.step c t = .ok (r', rest)) : Behind (c :: t) rest := by
  obtain ⟨rfl, h⟩ | ⟨rfl, -, rfl⟩ | ⟨rfl, -, rfl⟩ | ⟨-, h, -⟩ := step_cases h
  · exact .char (by decide) (openGroup_behind h)
  · exact .of_cons (by decide)
  · exact .of_cons (by decide)
  · exact h

end

end Reader

end PathRouting.Regex
