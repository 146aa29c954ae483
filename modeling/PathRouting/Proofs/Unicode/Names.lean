/-
  The names of character properties.

  * `PropertyQuery.not_mem_of_table`: no name under which a property is found holds
    a backslash. The tables are gone through once, byte by byte.
-/
import PathRouting.Unicode.Property
import Mathlib.Data.List.Basic

namespace PathRouting.Unicode

/-- Whether no byte of a name is a backslash. -/
def plainName (name : String) : Bool :=
  name.toByteArray.data.toList.all (· != 92)

theorem not_mem_of_plainName {name : Text} (h : plainName (String.ofList name)) : '\\' ∉ name := by
  intro hm
  simp only [plainName, List.all_eq_true, bne_iff_ne, ne_eq] at h
  refine h 92 ?_ rfl
  rw [String.toByteArray_ofList, List.utf8Encode]
  simp only [List.data_toByteArray, List.mem_flatMap]
  exact ⟨'\\', hm, by decide⟩

theorem plainName_of_find {tables : List NamedTable} (ht : tables.all fun t => t.names.all plainName)
    {name : String} {t : NamedTable} (h : tables.find? (·.names.contains name) = some t) :
    plainName name := by
  have hm := List.mem_of_find?_eq_some h
  have hn := List.find?_some h
  simp only [List.contains_iff_mem] at hn
  exact List.all_eq_true.1 (List.all_eq_true.1 ht t hm) name hn

theorem generalCategories_plain : generalCategories.all fun t => t.names.all plainName := by
  decide +kernel

theorem scripts_plain : scripts.all fun t => t.names.all plainName := by decide +kernel

theorem scriptExtensions_plain : scriptExtensions.all fun t => t.names.all plainName := by
  decide +kernel

theorem binaryProperties_plain : binaryProperties.all fun t => t.names.all plainName := by
  decide +kernel

theorem ages_plain : ages.all fun t => t.names.all plainName := by decide +kernel

theorem breaks_plain : (graphemeClusterBreaks ++ wordBreaks ++ sentenceBreaks).all fun t =>
    t.names.all plainName := by
  decide +kernel

section
variable {name : String} {t : RangeTable}

theorem plainName_of_generalCategory (h : generalCategory? name = some t) : plainName name := by
  unfold generalCategory? at h
  split at h
  case h_1 hf => exact plainName_of_find generalCategories_plain hf
  case h_2 =>
    obtain ⟨group, hg, -⟩ := Option.map_eq_some_iff.1 h
    have hm := List.mem_of_find?_eq_some hg
    have hn := List.find?_some hg
    simp only [List.contains_iff_mem] at hn
    have hp : categoryGroups.all fun g => g.1.all plainName := by decide +kernel
    exact List.all_eq_true.1 (List.all_eq_true.1 hp group hm) name hn

theorem plainName_of_category (h : category? name = some t) : plainName name := by
  unfold category? at h
  split_ifs at h with h1 h2 h3
  · rw [h1]; decide +kernel
  · rw [h2]; decide +kernel
  · rw [h3]; decide +kernel
  · exact plainName_of_generalCategory h

theorem plainName_of_script (h : script? name = some t) : plainName name := by
  obtain ⟨_, hf, -⟩ := Option.map_eq_some_iff.1 h
  exact plainName_of_find scripts_plain hf

theorem plainName_of_scriptExtension (h : scriptExtension? name = some t) : plainName name := by
  unfold scriptExtension? at h
  split at h
  case h_1 hf => exact plainName_of_find scriptExtensions_plain hf
  case h_2 => exact plainName_of_script h

theorem plainName_of_binaryProperty (h : binaryProperty? name = some t) : plainName name := by
  obtain ⟨_, hf, -⟩ := Option.map_eq_some_iff.1 h
  exact plainName_of_find binaryProperties_plain hf

theorem plainName_of_age (h : age? name = some t) : plainName name := by
  unfold age? at h
  split at h
  case h_1 i hi =>
    obtain ⟨hl, hn, -⟩ := List.findIdx?_eq_some_iff_getElem.1 hi
    simp only [List.contains_iff_mem] at hn
    exact List.all_eq_true.1 (List.all_eq_true.1 ages_plain _ (List.getElem_mem hl)) name hn
  case h_2 => cases h

theorem plainName_of_value {values : List NamedTable} (hv : values.all fun t => t.names.all plainName)
    (h : valueOf? values name = some t) : plainName name := by
  unfold valueOf? at h
  split_ifs at h
  obtain ⟨_, hf, -⟩ := Option.map_eq_some_iff.1 h
  exact plainName_of_find hv hf

end

theorem not_mem_of_lower {name : Text} (h : plainName (String.ofList (Text.lower name))) :
    '\\' ∉ name := by
  intro hm
  exact not_mem_of_plainName h (List.mem_map.2 ⟨'\\', hm, by decide⟩)

theorem mem_drop_of_is {name : Text} (h : (name.take 2).map Text.lowerChar = "is".toList)
    (hm : '\\' ∈ name) : '\\' ∈ name.drop 2 := by
  rw [← List.take_append_drop 2 name, List.mem_append] at hm
  refine hm.resolve_left fun hm => ?_
  have := List.mem_map_of_mem (f := Text.lowerChar) hm
  rw [h] at this
  revert this
  decide

/-- Loose matching ignores no backslash. -/
theorem not_mem_of_normalise {name : Text} (h : plainName (normalise name)) : '\\' ∉ name := by
  intro hm
  unfold normalise at h
  by_cases his : (name.take 2).map Text.lowerChar = "is".toList
  · simp only [his, if_true, true_and] at h
    have hrest : '\\' ∈ (name.drop 2).filter fun c =>
        c ≠ ' ' ∧ c ≠ '_' ∧ c ≠ '-' ∧ c.toNat < 0x80 :=
      List.mem_filter.2 ⟨mem_drop_of_is his hm, by decide⟩
    split_ifs at h with hc
    · have hl := congrArg String.toList hc
      rw [String.toList_ofList] at hl
      have := List.mem_map_of_mem (f := Text.lowerChar) hrest
      rw [← Text.lower, hl] at this
      revert this
      decide
    · exact not_mem_of_lower h hrest
  · simp only [his, if_false, false_and] at h
    exact not_mem_of_lower h (List.mem_filter.2 ⟨hm, by decide⟩)

/-- A name that is found without a value. -/
theorem plainName_of_or {name : String} {p : Prop} [Decidable p] {t : RangeTable}
    (h : ((if p then none else binaryProperty? name).or (category? name)).or (script? name) =
      some t) : plainName name := by
  rcases Option.or_eq_some_iff.1 h with h | ⟨-, h⟩
  · rcases Option.or_eq_some_iff.1 h with h | ⟨-, h⟩
    · split_ifs at h
      exact plainName_of_binaryProperty h
    · exact plainName_of_category h
  · exact plainName_of_script h

/-- The names of a query. -/
def PropertyQuery.names : PropertyQuery → List Text
  | .named name => [name]
  | .valued name value => [name, value]

/-- **Names without backslashes.** Where a property is found, neither its name nor
    that of its value holds a backslash. -/
theorem PropertyQuery.not_mem_of_table {q : PropertyQuery} {t : RangeTable}
    (h : q.table = some t) : ∀ name ∈ q.names, '\\' ∉ name := by
  cases q with
  | named name =>
    simp only [table] at h
    split at h
    · cases h
    · simpa [names] using not_mem_of_normalise (plainName_of_or h)
  | valued name value =>
    simp only [table] at h
    suffices plainName (normalise name) ∧ plainName (normalise value) by
      simpa [names] using ⟨not_mem_of_normalise this.1, not_mem_of_normalise this.2⟩
    have hb := breaks_plain
    simp only [List.all_append, Bool.and_eq_true] at hb
    split_ifs at h with h1 h2 h3 h4 h5 h6 h7
    · exact ⟨by rcases h1 with e | e <;> rw [e] <;> decide +kernel, plainName_of_category h⟩
    · exact ⟨by rcases h2 with e | e <;> rw [e] <;> decide +kernel, plainName_of_script h⟩
    · exact ⟨by rcases h3 with e | e <;> rw [e] <;> decide +kernel, plainName_of_scriptExtension h⟩
    · exact ⟨by rw [h4]; decide +kernel, plainName_of_age h⟩
    · exact ⟨by rcases h5 with e | e <;> rw [e] <;> decide +kernel, plainName_of_value hb.1.1 h⟩
    · exact ⟨by rcases h6 with e | e <;> rw [e] <;> decide +kernel, plainName_of_value hb.1.2 h⟩
    · exact ⟨by rcases h7 with e | e <;> rw [e] <;> decide +kernel, plainName_of_value hb.2 h⟩

end PathRouting.Unicode
