import MapStyle.Session.Edit

/-!
# What an edit by position does

When an edit by position is made or refused, and what a session is afterwards. A position in a list
is given by what stands before it, so that nothing has to be said about the numbers behind it.
-/

namespace MapStyle

/-- A position in range cuts a list in two around what stands there. -/
theorem exists_split {α : Type} {xs : List α} {i : Nat} (inside : i < xs.length) :
    ∃ before a after, xs = before ++ a :: after ∧ before.length = i := by
  refine ⟨xs.take i, xs[i], xs.drop (i + 1), ?_, ?_⟩
  · rw [List.getElem_cons_drop, List.take_append_drop]
  · rw [List.length_take]
    omega

theorem eraseIdx_split {α : Type} (before : List α) (a : α) (after : List α) :
    (before ++ a :: after).eraseIdx before.length = before ++ after := by
  rw [List.eraseIdx_append_of_length_le (Nat.le_refl _), Nat.sub_self, List.eraseIdx_cons_zero]

namespace Session

section Positions

variable {s t : Session} {i j : Nat} {rule : Rule} {symbolizer : Symbolizer}
  {before after : List Rule} {xs ys : List Symbolizer}

/-! ## Positions -/

theorem rule?_split (rules : s.rules = before ++ rule :: after) :
    s.rule? before.length = .ok rule := by
  rw [rule?, rules]
  simp

theorem rule?_of_le (outside : s.rules.length ≤ i) :
    s.rule? i = .error (.ruleOutOfRange i s.rules.length) := by
  rw [rule?, List.getElem?_eq_none outside]

theorem setSymbolizers_split (rules : s.rules = before ++ rule :: after) (ys : List Symbolizer) :
    s.setSymbolizers before.length rule ys =
      s.withRules (before ++ { rule with symbolizers := ys } :: after) := by
  rw [setSymbolizers, rules]
  simp

/-! ## Edits that are refused -/

theorem removeRule_of_le (outside : s.rules.length ≤ i) :
    s.removeRule i = .error (.ruleOutOfRange i s.rules.length) := by
  rw [removeRule, rule?_of_le outside]
  rfl

theorem addSymbolizer_of_le (outside : s.rules.length ≤ i) :
    s.addSymbolizer i = .error (.ruleOutOfRange i s.rules.length) := by
  rw [addSymbolizer, rule?_of_le outside]
  rfl

theorem removeSymbolizer_of_le (outside : s.rules.length ≤ i) (j : Nat) :
    s.removeSymbolizer i j = .error (.ruleOutOfRange i s.rules.length) := by
  rw [removeSymbolizer, rule?_of_le outside]
  rfl

theorem removeSymbolizer_of_le_inside (rules : s.rules = before ++ rule :: after)
    (outside : rule.symbolizers.length ≤ j) :
    s.removeSymbolizer before.length j =
      .error (.symbolizerOutOfRange before.length j rule.symbolizers.length) := by
  have missing : rule.symbolizers[j]? = none := List.getElem?_eq_none outside
  simp only [removeSymbolizer, rule?_split rules, bind, Except.bind, missing]
  rfl

/-! ## Edits that are made -/

theorem removeRule_split (rules : s.rules = before ++ rule :: after) :
    s.removeRule before.length = .ok (rule, s.withRules (before ++ after)) := by
  rw [removeRule, rule?_split rules, rules, eraseIdx_split]
  rfl

theorem addSymbolizer_split (rules : s.rules = before ++ rule :: after) :
    s.addSymbolizer before.length =
      .ok (rule.symbolizers.length, s.withRules
        (before ++ { rule with symbolizers := rule.symbolizers ++ [.starter] } :: after)) := by
  rw [addSymbolizer, rule?_split rules, ← setSymbolizers_split rules]
  rfl

theorem removeSymbolizer_split (rules : s.rules = before ++ rule :: after)
    (symbolizers : rule.symbolizers = xs ++ symbolizer :: ys) :
    s.removeSymbolizer before.length xs.length =
      .ok (symbolizer, s.withRules (before ++ { rule with symbolizers := xs ++ ys } :: after)) := by
  have found : rule.symbolizers[xs.length]? = some symbolizer := by simp [symbolizers]
  have rest : rule.symbolizers.eraseIdx xs.length = xs ++ ys := by
    rw [symbolizers, eraseIdx_split]
  rw [← setSymbolizers_split rules, ← rest]
  simp only [removeSymbolizer, rule?_split rules, bind, Except.bind, found]
  rfl

end Positions

/-! ## Runs -/

/-- The session after edits made one after the other, of which some may be refused. -/
def afterAll (s : Session) (edits : List Edit) : Session := edits.foldl after s

@[simp] theorem afterAll_nil (s : Session) : s.afterAll [] = s := rfl

@[simp] theorem afterAll_cons (s : Session) (edit : Edit) (edits : List Edit) :
    s.afterAll (edit :: edits) = (s.after edit).afterAll edits := rfl

theorem after_of_ok {s t : Session} {answer : Answer} {edit : Edit}
    (made : s.edit edit = .ok (answer, t)) : s.after edit = t := by
  rw [after, made]

/-- A refused edit changes nothing. -/
theorem after_of_error {s : Session} {edit : Edit} {e : Error}
    (refused : s.edit edit = .error e) : s.after edit = s := by
  rw [after, refused]

end Session

end MapStyle
