import MapStyle.Style.Issue
import Mathlib.Data.List.Sort

/-!
# What is reported about a style

`Issue.AppliesTo` says of every issue when a style has it, without looking at the report. The report
of a style lists exactly the issues that apply, each once and in the order of `Issue.Before`; this
determines it, so a report after an edit is known as soon as its members are.
-/

namespace MapStyle

namespace Issue

/-- A style has an issue: its name is unset or blank, it has no rule, or the rule at a position has
    no symbolizer. -/
def AppliesTo (style : Style) : Issue → Prop
  | .missingStyleName => ∀ name, style.name = some name → Text.isBlank name = true
  | .noRules => style.rules = []
  | .emptyRule index => style.rules[index]?.map Rule.symbolizers = some []

/-- The place of an issue in the order of reports. -/
def rank : Issue → Nat
  | .missingStyleName => 0
  | .noRules => 1
  | .emptyRule index => index + 2

/-- The order of reports: the name, then the lack of rules, then the rules by position. -/
def Before (first next : Issue) : Prop := first.rank < next.rank

instance : Std.Irrefl Before := ⟨fun issue => Nat.lt_irrefl issue.rank⟩

instance : Std.Antisymm Before := ⟨fun _ _ less more => absurd less (Nat.lt_asymm more)⟩

end Issue

/-! ## Rules without symbolizers -/

theorem mem_emptyRules {rules : List Rule} {first : Nat} {issue : Issue} :
    issue ∈ emptyRules first rules ↔
      ∃ i, rules[i]?.map Rule.symbolizers = some [] ∧ issue = .emptyRule (first + i) := by
  induction rules generalizing first with
  | nil => simp [emptyRules]
  | cons rule rest ih =>
    have later : issue ∈ emptyRules (first + 1) rest ↔ ∃ i,
        (rule :: rest)[i + 1]?.map Rule.symbolizers = some [] ∧
          issue = .emptyRule (first + (i + 1)) := by
      rw [ih]
      simp only [List.getElem?_cons_succ, Nat.add_assoc, Nat.add_comm 1]
    rw [← Nat.or_exists_add_one, ← later, emptyRules]
    by_cases empty : rule.symbolizers = []
    · simp [empty]
    · simp [empty]

theorem pairwise_emptyRules (first : Nat) (rules : List Rule) :
    (emptyRules first rules).Pairwise Issue.Before := by
  induction rules generalizing first with
  | nil => exact .nil
  | cons rule rest ih =>
    rw [emptyRules]
    split
    · refine .cons ?_ (ih (first + 1))
      intro issue member
      obtain ⟨i, -, rfl⟩ := mem_emptyRules.1 member
      show first + 2 < first + 1 + i + 2
      omega
    · exact ih (first + 1)

/-! ## Reports -/

namespace Style

theorem nonBlank?_isNone_iff {text : Option String} :
    (Text.nonBlank? text).isNone = true ↔ ∀ s, text = some s → Text.isBlank s = true := by
  rw [Option.isNone_iff_eq_none]
  cases text with
  | none => simp [Text.nonBlank?_none]
  | some s => cases blank : Text.isBlank s <;> simp [Text.nonBlank?_some, blank]

/-- A style's report lists the issues that it has. -/
theorem mem_issues {style : Style} {issue : Issue} :
    issue ∈ style.issues ↔ issue.AppliesTo style := by
  rw [issues, List.mem_append, List.mem_append, mem_emptyRules]
  simp only [nonBlank?_isNone_iff, List.isEmpty_iff]
  cases issue with
  | missingStyleName => simp [Issue.AppliesTo]
  | noRules => simp [Issue.AppliesTo]
  | emptyRule index =>
    simp only [Issue.AppliesTo, List.mem_ite_nil_right, List.mem_singleton, reduceCtorEq, and_false,
      false_or, Nat.zero_add, Issue.emptyRule.injEq]
    constructor
    · rintro ⟨i, empty, rfl⟩
      exact empty
    · intro empty
      exact ⟨index, empty, rfl⟩

/-- A style's report is in order, and so it says nothing twice. -/
theorem pairwise_issues (style : Style) : style.issues.Pairwise Issue.Before := by
  have rules := pairwise_emptyRules 0 style.rules
  have behind : ∀ issue ∈ emptyRules 0 style.rules, 2 ≤ issue.rank := by
    intro issue member
    obtain ⟨i, -, rfl⟩ := mem_emptyRules.1 member
    exact Nat.le_add_left 2 _
  rw [issues, List.append_assoc]
  refine List.pairwise_append.2 ⟨?_, List.pairwise_append.2 ⟨?_, rules, ?_⟩, ?_⟩
  · split <;> simp
  · split <;> simp
  · intro first here next there
    obtain rfl : first = .noRules := by simpa using (List.mem_ite_nil_right.1 here).2
    exact behind next there
  · intro first here next there
    obtain rfl : first = .missingStyleName := by simpa using (List.mem_ite_nil_right.1 here).2
    rcases List.mem_append.1 there with none | empty
    · obtain rfl : next = .noRules := by simpa using (List.mem_ite_nil_right.1 none).2
      exact Nat.zero_lt_one
    · exact Nat.lt_of_lt_of_le Nat.zero_lt_two (behind next empty)

theorem nodup_issues (style : Style) : style.issues.Nodup := style.pairwise_issues.nodup

/-- A report is the only list in order that has the issues of the style. -/
theorem issues_eq {style : Style} {report : List Issue} (sorted : report.Pairwise Issue.Before)
    (members : ∀ issue, issue.AppliesTo style ↔ issue ∈ report) : style.issues = report :=
  style.pairwise_issues.eq_of_mem_iff sorted fun issue => mem_issues.trans (members issue)

/-- An issue of the name comes first. -/
theorem head?_issues {style : Style} :
    style.issues.head? = some .missingStyleName ↔ Issue.missingStyleName.AppliesTo style := by
  constructor
  · intro first
    exact mem_issues.1 (List.mem_of_head? first)
  · intro applies
    have sorted := style.pairwise_issues
    have member := mem_issues.2 applies
    cases report : style.issues with
    | nil => simp [report] at member
    | cons first rest =>
      rw [report] at sorted member
      rcases List.mem_cons.1 member with rfl | behind
      · rfl
      · exact absurd ((List.pairwise_cons.1 sorted).1 _ behind) (Nat.not_lt_zero _)

end Style

end MapStyle
