/-
  Bindings as maps.

  * `get?_insert`, `get?_insertNew`, `get?_extended`: the values that the operations bind.
    `names_insert`, `names_insertNew`, `names_extended`: the order of the names.
  * `beq_iff_get?`: where no name is bound twice, `==` asks for the same value under each
    name, although it compares the sizes and goes through one of the two only.
  * `Made`: the bindings that the operations make. `Made.nodup`: they bind no name twice.
  * `Made.equality`: so equality of such bindings is that of their values, and it is kept by
    `extended`.
-/
import PathRouting.Proofs.Pattern.ValueSets

namespace PathRouting.Bindings

variable {a b c : Bindings} {n k v value : Text}

/-! ## Values -/

theorem mem_put {entries : List (Text × Text)} {p : Text × Text} (h : p ∈ put n v entries) :
    p = (n, v) ∨ p ∈ entries := by
  induction entries with
  | nil => exact .inl (List.mem_singleton.1 h)
  | cons q entries ih =>
    obtain ⟨k, w⟩ := q
    rw [put] at h
    split_ifs at h with hk
    · rcases List.mem_cons.1 h with rfl | h
      · exact .inl (by rw [hk])
      · exact .inr (List.mem_cons_of_mem _ h)
    · rcases List.mem_cons.1 h with rfl | h
      · exact .inr List.mem_cons_self
      · exact (ih h).imp id (List.mem_cons_of_mem _)

theorem get?_cons (p : Text × Text) (entries : List (Text × Text)) (n : Text) :
    get? ⟨p :: entries⟩ n = if n = p.1 then some p.2 else get? ⟨entries⟩ n := by
  rw [get?, List.lookup_cons]
  split_ifs with hn
  · rw [hn, beq_self_eq_true]
  · rw [beq_false_of_ne hn]
    rfl

theorem get?_insert (b : Bindings) (k v n : Text) :
    (b.insert k v).get? n = if n = k then some v else b.get? n := by
  obtain ⟨entries⟩ := b
  simp only [insert]
  induction entries with
  | nil => exact get?_cons (k, v) [] n
  | cons p entries ih =>
    rw [put]
    split_ifs with hk hn hn
    · rw [get?_cons, hk, if_pos hn]
    · rw [get?_cons, get?_cons, hk, if_neg hn, if_neg hn]
    · rw [get?_cons, if_neg (hn ▸ Ne.symm hk), ih, if_pos hn]
    · rw [get?_cons, get?_cons, ih, if_neg hn]

theorem get?_insertNew (b : Bindings) (n k value : Text) :
    (b.insertNew k value).get? n = (b.get? n).or (List.lookup n [(k, value)]) := by
  unfold insertNew
  split
  case isTrue h =>
    obtain ⟨v, hv⟩ := Option.isSome_iff_exists.1 h
    rw [List.lookup_cons]
    split
    case h_1 heq => rw [eq_of_beq heq, hv, Option.some_or]
    case h_2 => rw [List.lookup_nil, Option.or_none]
  case isFalse => exact List.lookup_append

theorem get?_eq_none_iff : b.get? n = none ↔ n ∉ b.names := by
  rw [get?, List.lookup_eq_none_iff, names, List.mem_map]
  constructor
  · rintro h ⟨p, hp, rfl⟩
    exact bne_iff_ne.1 (h p hp) rfl
  · intro h p hp
    rw [bne_iff_ne]
    rintro rfl
    exact h ⟨p, hp, rfl⟩

theorem contains_eq (b : Bindings) (n : Text) : b.contains n = b.names.contains n := by
  by_cases h : n ∈ b.names
  · rw [List.contains_iff_mem.2 h]
    exact Option.isSome_iff_ne_none.2 fun hn => get?_eq_none_iff.1 hn h
  · rw [contains, get?_eq_none_iff.2 h]
    simpa using h

/-- Where no name is bound twice, each entry gives the value of its name. -/
theorem get?_eq_some_iff (hb : b.names.Nodup) : b.get? n = some v ↔ (n, v) ∈ b.entries := by
  constructor
  · intro h
    obtain ⟨front, back, hentries, -⟩ := List.lookup_eq_some_iff.1 h
    simp [hentries]
  · intro h
    exact Pattern.get?_of_nodup hb h

/-- The bindings on top come first, if they bind no name twice. -/
theorem get?_extended (hb : b.names.Nodup) : (a.extended b).get? n = (b.get? n).or (a.get? n) := by
  obtain ⟨entries⟩ := b
  induction entries generalizing a with
  | nil => rfl
  | cons p entries ih =>
    obtain ⟨hp, hentries⟩ := List.nodup_cons.1 hb
    have hrest : (a.extended ⟨p :: entries⟩).get? n =
        (Bindings.get? ⟨entries⟩ n).or ((a.insert p.1 p.2).get? n) := ih hentries
    have hfirst : Bindings.get? ⟨entries⟩ p.1 = none := get?_eq_none_iff.2 hp
    rw [hrest, get?_cons, get?_insert]
    split_ifs with hn
    · rw [hn, hfirst, Option.none_or, Option.some_or]
    · rfl

/-! ## Names -/

/-- A name that is bound keeps its place, another one comes last. -/
theorem names_insert (b : Bindings) (n v : Text) :
    (b.insert n v).names = Pattern.addNew b.names [n] := by
  obtain ⟨entries⟩ := b
  simp only [insert, names, Pattern.addNew, List.contains_iff_mem]
  induction entries with
  | nil => rfl
  | cons p entries ih =>
    rw [put]
    by_cases hn : p.1 = n
    · simp [hn]
    · rw [if_neg hn, List.map_cons, ih]
      simp only [List.map_cons, List.mem_cons, Ne.symm hn, false_or]
      split_ifs <;> rfl

theorem names_insertNew (b : Bindings) (n v : Text) :
    (b.insertNew n v).names = Pattern.addNew b.names [n] := by
  rw [insertNew, contains_eq, Pattern.addNew, Pattern.addNew]
  split_ifs
  · rfl
  · exact List.map_append

/-- The names on top that are new come last, in their order. -/
theorem names_extended (a b : Bindings) :
    (a.extended b).names = Pattern.addNew a.names b.names := by
  obtain ⟨entries⟩ := b
  induction entries generalizing a with
  | nil => rfl
  | cons p entries ih =>
    calc (a.extended ⟨p :: entries⟩).names
      _ = ((a.insert p.1 p.2).extended ⟨entries⟩).names := rfl
      _ = Pattern.addNew (a.insert p.1 p.2).names (names ⟨entries⟩) := ih _
      _ = Pattern.addNew (Pattern.addNew a.names [p.1]) (names ⟨entries⟩) := by rw [names_insert]

/-! ## Equality -/

theorem beq_iff : a == b ↔ a.size = b.size ∧ ∀ p ∈ a.entries, b.get? p.1 = some p.2 := by
  show (a.size == b.size && a.entries.all fun p => b.get? p.1 == some p.2) = true ↔ _
  simp

/-- Where no name is bound twice, equal bindings have the same values: one of them has all
    names of the other, and no more of them. -/
theorem beq_iff_get? (ha : a.names.Nodup) (hb : b.names.Nodup) :
    a == b ↔ ∀ n, a.get? n = b.get? n := by
  rw [beq_iff]
  constructor
  · rintro ⟨hsize, hentries⟩ n
    have hsub : a.names ⊆ b.names := by
      intro n hn
      obtain ⟨p, hp, rfl⟩ := List.mem_map.1 hn
      have hvalue := hentries p hp
      by_contra hno
      rw [get?_eq_none_iff.2 hno] at hvalue
      cases hvalue
    have hlength : b.names.length ≤ a.names.length := by
      rw [names, names, List.length_map, List.length_map]
      exact hsize.ge
    have hperm : a.names.Perm b.names := (ha.subperm hsub).perm_of_length_le hlength
    cases hn : a.get? n with
    | none => exact (get?_eq_none_iff.2 fun h => get?_eq_none_iff.1 hn (hperm.mem_iff.2 h)).symm
    | some v => exact (hentries (n, v) ((get?_eq_some_iff ha).1 hn)).symm
  · intro h
    have hmem : ∀ n, n ∈ a.names ↔ n ∈ b.names := by
      intro n
      rw [← not_iff_not, ← get?_eq_none_iff, ← get?_eq_none_iff, h n]
    refine ⟨?_, fun p hp => ?_⟩
    · have hlength := ((List.perm_ext_iff_of_nodup ha hb).2 hmem).length_eq
      rwa [names, names, List.length_map, List.length_map] at hlength
    · rw [← h]
      exact (get?_eq_some_iff ha).2 hp

/-! ## What the operations make -/

/-- Bindings that the operations make, in any number and order. -/
inductive Made : Bindings → Prop
  | empty : Made .empty
  | ofList (pairs : List (Text × Text)) : Made (.ofList pairs)
  | insert {b : Bindings} (name value : Text) : Made b → Made (b.insert name value)
  | insertNew {b : Bindings} (name value : Text) : Made b → Made (b.insertNew name value)
  | extended {a b : Bindings} : Made a → Made b → Made (a.extended b)

namespace Made

/-- **No name is bound twice.** -/
theorem nodup (h : b.Made) : b.names.Nodup := by
  induction h with
  | empty => exact List.nodup_nil
  | ofList pairs =>
    have hnames : (Bindings.ofList pairs).names = Pattern.addNew [] (pairs.map (·.1)) :=
      names_extended .empty ⟨pairs⟩
    rw [hnames]
    exact Pattern.nodup_addNew List.nodup_nil
  | insert name value _ ih =>
    rw [names_insert]
    exact Pattern.nodup_addNew ih
  | insertNew name value _ ih =>
    rw [names_insertNew]
    exact Pattern.nodup_addNew ih
  | extended _ _ iha _ =>
    rw [names_extended]
    exact Pattern.nodup_addNew iha

theorem beq_iff (ha : a.Made) (hb : b.Made) : a == b ↔ ∀ n, a.get? n = b.get? n :=
  beq_iff_get? ha.nodup hb.nodup

/-- **Equality of bindings.** Bindings that the operations make bind no name twice. So they are
    equal if and only if each name has the same value in both; equality goes either way and
    from one to the next, and equal ones stay equal on top of others and below others. -/
theorem equality (ha : a.Made) (hb : b.Made) (hc : c.Made) :
    a.names.Nodup ∧ (a == b ↔ ∀ n, a.get? n = b.get? n) ∧ (a == b ↔ b == a) ∧
      (a == b → b == c → a == c) ∧
      (a == b → a.extended c == b.extended c ∧ c.extended a == c.extended b) := by
  refine ⟨ha.nodup, ha.beq_iff hb, ?_, ?_, ?_⟩
  · rw [ha.beq_iff hb, hb.beq_iff ha]
    exact forall_congr' fun n => eq_comm
  · rw [ha.beq_iff hb, hb.beq_iff hc, ha.beq_iff hc]
    intro hab hbc n
    exact (hab n).trans (hbc n)
  · rw [ha.beq_iff hb, (ha.extended hc).beq_iff (hb.extended hc),
      (hc.extended ha).beq_iff (hc.extended hb)]
    intro hab
    constructor
    · intro n
      rw [get?_extended hc.nodup, get?_extended hc.nodup, hab n]
    · intro n
      rw [get?_extended ha.nodup, get?_extended hb.nodup, hab n]

/-- The same values in another order, below and on top of another one. -/
theorem equality_in_other_order :
    let a := Bindings.ofList [(['x'], ['0']), (['y'], ['2']), (['x'], ['1'])]
    let b := ((Bindings.empty.insertNew ['y'] ['2']).insert ['x'] ['1']).insertNew ['y'] ['9']
    let c := Bindings.empty.insert ['y'] ['3']
    a.entries = [(['x'], ['1']), (['y'], ['2'])] ∧ b.entries = [(['y'], ['2']), (['x'], ['1'])] ∧
      b == a ∧ a.extended c == b.extended c ∧ c.extended a == c.extended b := by
  intro a b c
  have ha : a.Made := .ofList _
  have hb : b.Made := .insertNew _ _ (.insert _ _ (.insertNew _ _ .empty))
  have hc : c.Made := .insert _ _ .empty
  have hab : a == b := rfl
  obtain ⟨-, -, hsymm, -, hextended⟩ := equality ha hb hc
  exact ⟨rfl, rfl, hsymm.1 hab, hextended hab⟩

end Made

end PathRouting.Bindings
