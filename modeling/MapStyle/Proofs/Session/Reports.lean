import MapStyle.Proofs.Session.Positions
import MapStyle.Proofs.Style.Issues

/-!
# Reports and edits

What an edit by position does to the report about the style. Adding takes one issue away at most,
and this is how an issue is repaired; so all that are reported can be repaired in any order.
Removing adds one issue at most, and removing a rule moves the issues of the rules behind it. Main
statement: `Session.reports_exact`.
-/

namespace MapStyle

/-- The edit that repairs an issue; a name is not given by position. -/
def Issue.repair? : Issue → Option Session.Edit
  | .missingStyleName => none
  | .noRules => some .addRule
  | .emptyRule index => some (.addSymbolizer index)

/-- The issue as it reads once the rule at `gone` is taken out; that of the rule itself is settled.
    -/
def Issue.movedPast (gone : Nat) : Issue → Option Issue
  | .emptyRule index => (Session.movedPast gone index).map .emptyRule
  | issue => some issue

namespace Session

/-- The session after edits made one after the other, if none of them is refused. -/
def editAll (s : Session) (edits : List Edit) : Except Error Session :=
  edits.foldlM (fun s e => (s.edit e).map Prod.snd) s

theorem editAll_cons {s t : Session} {e : Edit} {given : Answer} (made : s.edit e = .ok (given, t))
    (edits : List Edit) : s.editAll (e :: edits) = t.editAll edits := by
  rw [editAll, List.foldlM_cons, made]
  rfl

variable {s t : Session} {rule : Rule} {i j : Nat}

/-- What is reported about a session with other rules. -/
theorem issues_withRules {rules : List Rule} {report : List Issue}
    (sorted : report.Pairwise Issue.Before)
    (unnamed : Issue.missingStyleName.AppliesTo s.style ↔ .missingStyleName ∈ report)
    (none : rules = [] ↔ .noRules ∈ report)
    (empty : ∀ k, rules[k]?.map Rule.symbolizers = some [] ↔ .emptyRule k ∈ report) :
    (s.withRules rules).style.issues = report := by
  refine Style.issues_eq sorted fun issue => ?_
  cases issue with
  | missingStyleName => exact unnamed
  | noRules => exact none
  | emptyRule k => exact empty k

theorem mem_filter_ne {issue other : Issue} :
    issue ∈ s.style.issues.filter (· ≠ other) ↔ issue.AppliesTo s.style ∧ issue ≠ other := by
  rw [List.mem_filter, Style.mem_issues, decide_eq_true_eq]

/-! ## Adding -/

/-- A rule more settles the lack of rules, and nothing else. -/
theorem issues_after_addRule (s : Session) :
    (s.after .addRule).style.issues = s.style.issues.filter (· ≠ .noRules) := by
  apply issues_withRules (s.style.pairwise_issues.filter _)
  · rw [mem_filter_ne, and_iff_left (by simp)]
  · exact iff_of_false (by simp) fun member => (mem_filter_ne.1 member).2 rfl
  · intro k
    rw [mem_filter_ne, and_iff_left (by simp), Issue.AppliesTo]
    by_cases inside : k < s.rules.length
    · rw [List.getElem?_append_left inside]
    · -- the rule behind the others has a symbolizer
      rw [List.getElem?_append_right (by omega),
        List.getElem?_eq_none (by omega : s.rules.length ≤ k)]
      cases k - s.rules.length <;> simp [Rule.starter]

/-- A change of one rule matters to the issue of that rule, and to no other. -/
theorem appliesTo_change (c : Change) (i : Nat) (issue : Issue) :
    issue.AppliesTo (s.withRules (s.rules.modify i c.revise)).style ↔
      if issue = .emptyRule i then
        s.rules[i]?.map (fun rule => c.apply rule.symbolizers) = some []
      else issue.AppliesTo s.style := by
  cases issue with
  | missingStyleName => exact Iff.rfl
  | noRules => exact List.modify_eq_nil_iff
  | emptyRule k =>
    show (s.rules.modify i c.revise)[k]?.map Rule.symbolizers = some [] ↔ _
    by_cases same : i = k
    · subst same
      rw [if_pos rfl, List.getElem?_modify_eq]
      cases s.rules[i]? <;> rfl
    · rw [if_neg (by simpa using Ne.symm same), List.getElem?_modify_ne _ _ same]
      rfl

/-- A symbolizer more settles the issue of its rule, and nothing else. -/
theorem issues_after_addSymbolizer (s : Session) (i : Nat) :
    (s.after (.addSymbolizer i)).style.issues = s.style.issues.filter (· ≠ .emptyRule i) := by
  rw [show s.after (.addSymbolizer i) = _ from after_change s .add i]
  refine Style.issues_eq (s.style.pairwise_issues.filter _) fun issue => ?_
  rw [appliesTo_change, mem_filter_ne]
  by_cases same : issue = .emptyRule i
  · refine iff_of_false ?_ fun both => both.2 same
    rw [if_pos same]
    cases s.rules[i]? <;> simp [Change.apply]
  · rw [if_neg same, and_iff_left same]

/-! ## Repairs -/

theorem edit_of_repair? {issue : Issue} {e : Edit} (reported : issue ∈ s.style.issues)
    (repairs : issue.repair? = some e) : ∃ given, s.edit e = .ok (given, s.after e) := by
  have inRange : e.InRange s := by
    cases issue with
    | missingStyleName => cases repairs
    | noRules =>
      obtain rfl := Option.some.inj repairs
      trivial
    | emptyRule k =>
      obtain rfl := Option.some.inj repairs
      obtain ⟨rule, here, -⟩ := Option.map_eq_some_iff.1 (Style.mem_issues.1 reported)
      exact (List.getElem?_eq_some_iff.1 here).1
  obtain ⟨⟨given, t⟩, made⟩ := edit_isOk_iff.2 inRange
  exact ⟨given, made.trans (by rw [after_of_ok made])⟩

/-- A repair settles its issue, and nothing else. -/
theorem issues_after_repair? {issue : Issue} {e : Edit} (repairs : issue.repair? = some e) :
    (s.after e).style.issues = s.style.issues.filter (· ≠ issue) := by
  cases issue with
  | missingStyleName => cases repairs
  | noRules =>
    obtain rfl := Option.some.inj repairs
    exact issues_after_addRule s
  | emptyRule k =>
    obtain rfl := Option.some.inj repairs
    exact issues_after_addSymbolizer s k

/-- Repairs of different issues that are reported are made one after the other, and leave the issues
    that are not repaired. -/
theorem editAll_repairs {order : List Issue} (s : Session) (distinct : order.Nodup)
    (reported : ∀ issue ∈ order, issue ∈ s.style.issues) :
    ∃ t, s.editAll (order.filterMap Issue.repair?) = .ok t ∧
      t.style.issues =
        s.style.issues.filter fun issue => issue.repair? = none ∨ issue ∉ order := by
  induction order generalizing s with
  | nil => exact ⟨s, rfl, by simp⟩
  | cons issue order ih =>
    obtain ⟨fresh, distinct⟩ := List.nodup_cons.1 distinct
    obtain ⟨here, there⟩ := List.forall_mem_cons.1 reported
    cases repairs : issue.repair? with
    | none =>
      obtain ⟨t, made, left⟩ := ih s distinct there
      refine ⟨t, by rw [List.filterMap_cons_none repairs, made], left.trans ?_⟩
      apply List.filter_congr
      intro other member
      by_cases same : other = issue <;> simp [same, repairs]
    | some e =>
      obtain ⟨given, first⟩ := edit_of_repair? here repairs
      have settled := issues_after_repair? (s := s) repairs
      -- what is repaired later is still reported after the first repair
      have still : ∀ other ∈ order, other ∈ (s.after e).style.issues := by
        intro other member
        rw [settled, List.mem_filter, decide_eq_true_eq]
        exact ⟨there other member, fun same => fresh (same ▸ member)⟩
      obtain ⟨t, made, left⟩ := ih (s.after e) distinct still
      refine ⟨t, ?_, ?_⟩
      · rw [List.filterMap_cons_some repairs, editAll_cons first, made]
      · rw [left, settled, List.filter_filter]
        apply List.filter_congr
        intro other member
        by_cases same : other = issue <;> simp [same, repairs, fresh]

/-- In whatever order the issues of a report are repaired, all repairs are made, and at most the
    name is left to report. -/
theorem editAll_repairs_perm {order : List Issue} (s : Session) (some : order.Perm s.style.issues) :
    ∃ t, s.editAll (order.filterMap Issue.repair?) = .ok t ∧
      t.style.issues = s.style.issues.filter (· = .missingStyleName) := by
  obtain ⟨t, made, left⟩ := editAll_repairs s (some.nodup_iff.2 s.style.nodup_issues)
    fun issue member => some.mem_iff.1 member
  refine ⟨t, made, left.trans (List.filter_congr fun issue member => ?_)⟩
  have repaired : issue ∈ order := some.mem_iff.2 member
  cases issue <;> simp [repaired, Issue.repair?]

/-! ## Removing -/

/-- Without one of its symbolizers, a rule has the issue that it has none exactly if it had no
    other; nothing else in the report changes. -/
theorem issues_removeSymbolizer {symbolizer : Symbolizer}
    (made : s.removeSymbolizer i j = .ok (symbolizer, t)) :
    t.style.issues.filter (· ≠ .emptyRule i) = s.style.issues ∧
      (.emptyRule i ∈ t.style.issues ↔
        s.rules[i]?.map Rule.symbolizers = some [symbolizer]) := by
  obtain ⟨rule, here, there, rfl⟩ := removeSymbolizer_eq_ok made
  obtain ⟨xs, found, ys, symbolizers, rfl⟩ := exists_split (List.getElem?_eq_some_iff.1 there).1
  obtain rfl : found = symbolizer := by simpa [symbolizers] using there
  refine ⟨(Style.issues_eq ((Style.pairwise_issues _).filter _) fun issue => ?_).symm, ?_⟩
  · rw [mem_filter_ne, appliesTo_change]
    by_cases same : issue = .emptyRule i
    · refine iff_of_false ?_ fun both => both.2 same
      simp [same, Issue.AppliesTo, here, symbolizers]
    · rw [if_neg same, and_iff_left same]
  · rw [Style.mem_issues, appliesTo_change, if_pos rfl, here, Option.map_some, Option.map_some,
      Change.apply, symbolizers, eraseIdx_split]
    cases xs <;> simp

/-- Which of the rules stands at a position when one is taken out. -/
theorem movedPast_eq_some_iff {gone k n : Nat} :
    movedPast gone k = some n ↔ k = if n < gone then n else n + 1 := by
  rw [movedPast]
  by_cases same : gone = k
  · rw [if_pos same]
    split <;> simp <;> omega
  · rw [if_neg same, Option.some.injEq]
    split <;> split <;> omega

theorem movedPast_eq_emptyRule_iff {issue : Issue} {gone n : Nat} :
    issue.movedPast gone = some (.emptyRule n) ↔
      issue = .emptyRule (if n < gone then n else n + 1) := by
  cases issue with
  | missingStyleName => simp [Issue.movedPast]
  | noRules => simp [Issue.movedPast]
  | emptyRule k => simp [Issue.movedPast, movedPast_eq_some_iff]

theorem rank_movedPast {issue issue' : Issue} {gone : Nat}
    (moved : issue.movedPast gone = some issue') :
    issue.rank ≠ gone + 2 ∧
      issue'.rank = if gone + 2 < issue.rank then issue.rank - 1 else issue.rank := by
  cases issue with
  | missingStyleName =>
    obtain rfl := Option.some.inj moved
    simp [Issue.rank]
  | noRules =>
    obtain rfl := Option.some.inj moved
    simp [Issue.rank]
  | emptyRule k =>
    obtain ⟨n, past, rfl⟩ := Option.map_eq_some_iff.1 moved
    rw [movedPast_eq_some_iff] at past
    simp only [Issue.rank]
    rw [past]
    split <;> refine ⟨by omega, ?_⟩ <;> split <;> omega

/-- An issue that is not about one rule is left as it is. -/
theorem mem_filterMap_movedPast {issues : List Issue} {issue : Issue} {gone : Nat}
    (general : ∀ n, issue ≠ .emptyRule n) :
    issue ∈ issues.filterMap (Issue.movedPast gone) ↔ issue ∈ issues := by
  have same : ∀ other : Issue, other.movedPast gone = some issue ↔ other = issue := by
    intro other
    cases other with
    | missingStyleName => exact Option.some_inj
    | noRules => exact Option.some_inj
    | emptyRule k =>
      refine iff_of_false (fun moved => ?_) (general k).symm
      obtain ⟨n, -, rfl⟩ := Option.map_eq_some_iff.1 moved
      exact general n rfl
  simp only [List.mem_filterMap, same, exists_eq_right]

/-- Issues that are left when a rule is taken out keep their order. -/
theorem before_movedPast {first next first' next' : Issue} {gone : Nat}
    (order : first.Before next) (moved : first.movedPast gone = some first')
    (moved' : next.movedPast gone = some next') : first'.Before next' := by
  obtain ⟨other, rank⟩ := rank_movedPast moved
  obtain ⟨other', rank'⟩ := rank_movedPast moved'
  have less : first.rank < next.rank := order
  show first'.rank < next'.rank
  rw [rank, rank']
  split <;> split <;> omega

/-- Without one of its rules, a style has no issue of that rule; the issues of the rules behind it
    move up, and there is a lack of rules if it was the only one. -/
theorem issues_removeRule (made : s.removeRule i = .ok (rule, t)) :
    t.style.issues = s.style.issues.filterMap (Issue.movedPast i) ++
      if t.rules = [] then [.noRules] else [] := by
  obtain ⟨here, rfl⟩ := removeRule_eq_ok made
  have rules : (s.withRules (s.rules.eraseIdx i)).rules = s.rules.eraseIdx i := rfl
  have empty : ∀ n, (s.rules.eraseIdx i)[n]?.map Rule.symbolizers = some [] ↔
      .emptyRule n ∈ s.style.issues.filterMap (Issue.movedPast i) := by
    intro n
    simp only [List.mem_filterMap, movedPast_eq_emptyRule_iff, exists_eq_right]
    rw [Style.mem_issues, Issue.AppliesTo, List.getElem?_eraseIdx]
    split <;> rfl
  -- there was a rule, the one that is taken out
  have full : .noRules ∉ s.style.issues.filterMap (Issue.movedPast i) := by
    rw [mem_filterMap_movedPast (by simp), Style.mem_issues]
    intro none
    have outside : s.rules[i]? = Option.none := by rw [show s.rules = [] from none]; rfl
    cases here.symm.trans outside
  rw [rules]
  apply issues_withRules
  · refine List.pairwise_append.2 ⟨?_, by split <;> simp, ?_⟩
    · refine List.pairwise_filterMap.2 (s.style.pairwise_issues.imp ?_)
      intro first next order first' moved next' moved'
      exact before_movedPast order moved moved'
    · intro first member next last
      obtain ⟨none, rfl⟩ : s.rules.eraseIdx i = [] ∧ next = .noRules := by simpa using last
      cases first with
      | missingStyleName => exact Nat.zero_lt_one
      | noRules => exact absurd member full
      | emptyRule n =>
        have := (empty n).2 member
        simp [none] at this
  · rw [List.mem_append, mem_filterMap_movedPast (by simp), Style.mem_issues]
    simp
  · rw [List.mem_append, or_iff_right full]
    simp
  · intro n
    rw [List.mem_append, empty]
    simp

/-- A report lists the issues that a style has, each once, in order and that of the name first.
    Repairs of all that is reported can be made in any order, and at most the issue of the name is
    left. Adding settles the issue it repairs and changes nothing else. Taking a symbolizer out adds
    the issue of its rule if it was the last one there, and changes nothing else. Taking a rule out
    settles its issue, moves those of the rules behind it up by one, and adds the lack of rules if
    none is left. -/
theorem reports_exact :
    (∀ style : Style,
      (∀ issue, issue ∈ style.issues ↔ issue.AppliesTo style) ∧
        style.issues.Pairwise Issue.Before ∧ style.issues.Nodup ∧
        (style.issues.head? = some .missingStyleName ↔
          Issue.missingStyleName.AppliesTo style)) ∧
      ∀ s : Session,
        (∀ order : List Issue, order.Perm s.style.issues →
          ∃ t, s.editAll (order.filterMap Issue.repair?) = .ok t ∧
            t.style.issues = s.style.issues.filter (· = .missingStyleName)) ∧
        (s.after .addRule).style.issues = s.style.issues.filter (· ≠ .noRules) ∧
        (∀ i, (s.after (.addSymbolizer i)).style.issues =
          s.style.issues.filter (· ≠ .emptyRule i)) ∧
        (∀ i j symbolizer t, s.removeSymbolizer i j = .ok (symbolizer, t) →
          t.style.issues.filter (· ≠ .emptyRule i) = s.style.issues ∧
            (.emptyRule i ∈ t.style.issues ↔
              s.rules[i]?.map Rule.symbolizers = some [symbolizer])) ∧
        ∀ i rule t, s.removeRule i = .ok (rule, t) →
          t.style.issues = s.style.issues.filterMap (Issue.movedPast i) ++
            if t.rules = [] then [.noRules] else [] := by
  refine ⟨fun style => ?_, fun s => ?_⟩
  · exact ⟨fun issue => Style.mem_issues, style.pairwise_issues, style.nodup_issues,
      Style.head?_issues⟩
  · exact ⟨fun order => editAll_repairs_perm s, issues_after_addRule s,
      issues_after_addSymbolizer s, fun i j symbolizer t => issues_removeSymbolizer,
      fun i rule t => issues_removeRule⟩

/-- A session with a blank name whose first and third rule have no symbolizer; the second has one.
    -/
def unfinished : Session :=
  { style :=
      { name := some " "
        featureTypeStyle :=
          { rules :=
              [{ name := some "rule1" }, Rule.starter 2, { name := some "rule3" }] } }
    layerName := none }

theorem reports_exact_unfinished :
    unfinished.style.issues = [.missingStyleName, .emptyRule 0, .emptyRule 2] ∧
      (∃ t, unfinished.editAll [.addSymbolizer 2, .addSymbolizer 0] = .ok t ∧
        t.style.issues = [.missingStyleName]) ∧
      (∃ symbolizer t, unfinished.removeSymbolizer 1 0 = .ok (symbolizer, t) ∧
        .emptyRule 1 ∈ t.style.issues) ∧
      ∃ rule t, unfinished.removeRule 0 = .ok (rule, t) ∧
        t.style.issues = [.missingStyleName, .emptyRule 1] := by
  have issues : unfinished.style.issues = [.missingStyleName, .emptyRule 0, .emptyRule 2] := by
    decide
  obtain ⟨repairs, -, -, symbolizers, rules⟩ := reports_exact.2 unfinished
  rw [issues] at repairs symbolizers rules
  refine ⟨issues, ?_, ⟨_, _, rfl, ?_⟩, ⟨_, _, rfl, ?_⟩⟩
  · exact repairs [.emptyRule 2, .emptyRule 0, .missingStyleName] (by decide)
  · exact (symbolizers 1 0 _ _ rfl).2.2 rfl
  · exact rules 0 _ _ rfl

end Session

end MapStyle
