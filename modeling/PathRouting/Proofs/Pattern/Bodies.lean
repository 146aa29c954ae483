/-
  Raw regular expressions of a pattern that compiles.

  * `compile_bodies`: if a tree compiles and each raw regular expression keeps to its
    group, then each is read as a regular expression on its own.
  * `compilePattern_bodies`: a pattern with a raw regular expression that is none does not
    compile under the default sub-patterns.
-/
import PathRouting.Proofs.Pattern.SubPatterns

namespace PathRouting.Pattern

open Regex Regex.Reader

theorem Options.selfContained_default (cs : Bool) :
    Options.SelfContained { caseSensitive := cs } := by
  refine ⟨fun ci which => ?_, fun which _ _ => ?_⟩
  · cases cs <;> cases ci <;> cases which <;> decide +kernel
  · cases cs <;> cases which <;> decide +kernel

section
variable {root : Node} {o : Options} {m : Matcher}

/-- **Raw regular expressions.** What is read in its group is a regular expression. -/
theorem compile_bodies (ho : o.SelfContained)
    (hraw : ∀ body ∈ root.bodies, Contained (patternFlags (!o.caseSensitive)) body)
    (hm : compile root o = .ok m) :
    ∀ body ∈ root.bodies, ∃ e, Regex.read (patternFlags (!o.caseSensitive)) body = .ok e := by
  have hexchange := Node.source_exchange ho.exchange root fun body hb => (hraw body hb).inside rfl
  have hread := (regex_compile_eq_ok (compile_eq_ok hm).1).2.1
  obtain ⟨⟨x, hx⟩, -⟩ | ⟨hbodies, -⟩ := (hexchange.anchored rfl).read
  · cases hx.symm.trans hread
  · exact hbodies

end

/-- **Malformed fragments.** If a pattern compiles under the default sub-patterns, and each
    raw regular expression keeps to its group, then each is accepted on its own, unless
    it is too large. -/
theorem compilePattern_bodies {pattern : Text} {cs : Bool} {root : Node} {m : Matcher}
    (hparse : parse pattern = .ok root)
    (hraw : ∀ body ∈ root.bodies, Contained (patternFlags (!cs)) body)
    (hm : compilePattern pattern { caseSensitive := cs } = .ok m) :
    ∀ body ∈ root.bodies, (∃ r, Regex.compile (!cs) body = .ok r) ∨
      Regex.compile (!cs) body = .error .tooLarge := by
  intro body hb
  obtain ⟨root', hparse', hm⟩ := bind_eq_ok.1 hm
  cases hparse.symm.trans hparse'
  obtain ⟨e, he⟩ := compile_bodies (Options.selfContained_default cs) hraw hm body hb
  rw [regex_compile_of_read he]
  split_ifs
  · exact .inl ⟨_, rfl⟩
  · exact .inr rfl

/-- Two raw regular expressions that are accepted, with a parenthesis in the first one. -/
theorem compilePattern_bodies_paren :
    ∃ root m, parse ":a(x|\\))-:b(y+)".toList = .ok root ∧
      (∀ body ∈ root.bodies, Contained (patternFlags (!false)) body) ∧
      compilePattern ":a(x|\\))-:b(y+)".toList { caseSensitive := false } = .ok m ∧
      ∀ body ∈ root.bodies, (∃ r, Regex.compile (!false) body = .ok r) ∨
        Regex.compile (!false) body = .error .tooLarge := by
  have hraw : (parse ":a(x|\\))-:b(y+)".toList).toOption.any fun root =>
      root.bodies.all fun body => decide (Contained (patternFlags (!false)) body) := by
    decide +kernel
  have hok : (compilePattern ":a(x|\\))-:b(y+)".toList { caseSensitive := false }).isOk := by
    decide +kernel
  obtain ⟨root, hparse, hraw⟩ := (Option.any_eq_true _ _).1 hraw
  obtain ⟨m, hm⟩ := exists_of_isOk hok
  have hcontained : ∀ body ∈ root.bodies, Contained (patternFlags (!false)) body :=
    fun body hb => of_decide_eq_true (List.all_eq_true.1 hraw body hb)
  have hroot := eq_ok_of_toOption hparse
  exact ⟨root, m, hroot, hcontained, hm, compilePattern_bodies hroot hcontained hm⟩

/-- A bracket that opens a class in one raw regular expression and one that closes it in
    the next: the pattern compiles, but the first of the two is not accepted. -/
theorem compilePattern_split_class :
    ∃ root m, parse "((?-i)[)(])".toList = .ok root ∧
      compilePattern "((?-i)[)(])".toList { caseSensitive := false } = .ok m ∧
      "(?-i)[".toList ∈ root.bodies ∧
      Regex.compile true "(?-i)[".toList = .error .unclosedClass := by
  have hbody : (parse "((?-i)[)(])".toList).toOption.any fun root =>
      decide ("(?-i)[".toList ∈ root.bodies) := by
    decide +kernel
  have hok : (compilePattern "((?-i)[)(])".toList { caseSensitive := false }).isOk := by
    decide +kernel
  have hread : Regex.read { caseInsensitive := true } "(?-i)[".toList = .error .unclosedClass := by
    decide +kernel
  obtain ⟨root, hparse, hbody⟩ := (Option.any_eq_true _ _).1 hbody
  obtain ⟨m, hm⟩ := exists_of_isOk hok
  exact ⟨root, m, eq_ok_of_toOption hparse, hm, of_decide_eq_true hbody,
    regex_compile_of_rejected hread⟩

end PathRouting.Pattern
