import MapStyle.Proofs.Session.Edits

/-!
# The laws of positions

What an editor relies on when it undoes an edit, makes edits in another order or follows a position
past a deletion. An edit by position is one of three operations on lists, also where it is refused:
then the position is beyond the end, and the operation leaves the list as it is. So the laws are
those of the operations on lists. Main statement: `Session.position_laws`.
-/

namespace MapStyle

/-- Of two items taken out of a list, either can be taken out first; the later one is found one
    place further on then. -/
theorem eraseIdx_eraseIdx_of_le {α : Type} (xs : List α) {i j : Nat} (order : i ≤ j) :
    (xs.eraseIdx i).eraseIdx j = (xs.eraseIdx (j + 1)).eraseIdx i := by
  apply List.ext_getElem?
  intro n
  simp only [List.getElem?_eraseIdx]
  by_cases before : n < i
  · rw [if_pos (by omega), if_pos before, if_pos before, if_pos (by omega)]
  · by_cases between : n < j
    · rw [if_pos between, if_neg before, if_neg before, if_pos (by omega)]
    · rw [if_neg between, if_neg before, if_neg (by omega), if_neg (by omega)]

theorem modify_split {α : Type} (before : List α) (a : α) (after : List α) (f : α → α) :
    (before ++ a :: after).modify before.length f = before ++ f a :: after := by
  induction before with
  | nil => rfl
  | cons b before ih => rw [List.cons_append, List.length_cons, List.modify_succ_cons, ih]; rfl

namespace Session

/-- What an edit gives back, or why it is refused. -/
def answer (s : Session) (e : Edit) : Except Error Answer := (s.edit e).map Prod.fst

/-- The error as it reads for another rule. -/
def Error.inRule (rule : Nat) : Error → Error
  | .ruleOutOfRange _ count => .ruleOutOfRange rule count
  | .symbolizerOutOfRange _ index count => .symbolizerOutOfRange rule index count

/-! ## Changes of one rule -/

/-- A change of the symbolizers of a rule. -/
inductive Change
  | add
  | remove (index : Nat)

namespace Change

/-- The edit that makes a change in the rule at a position. -/
def edit (rule : Nat) : Change → Edit
  | .add => .addSymbolizer rule
  | .remove index => .removeSymbolizer rule index

/-- The symbolizers after a change; out of range there is nothing to remove. -/
def apply (symbolizers : List Symbolizer) : Change → List Symbolizer
  | .add => symbolizers ++ [.starter]
  | .remove index => symbolizers.eraseIdx index

/-- The rule after a change. -/
def revise (change : Change) (rule : Rule) : Rule :=
  { rule with symbolizers := change.apply rule.symbolizers }

/-- What a change gives back in the rule at a position, by the symbolizers there. -/
def answer (rule : Nat) (symbolizers : List Symbolizer) : Change → Except Error Answer
  | .add => .ok (.index symbolizers.length)
  | .remove index =>
    match symbolizers[index]? with
    | some symbolizer => .ok (.symbolizer symbolizer)
    | none => .error (.symbolizerOutOfRange rule index symbolizers.length)

theorem answer_inRule (change : Change) (symbolizers : List Symbolizer) (rule other : Nat) :
    change.answer rule symbolizers = (change.answer other symbolizers).mapError (.inRule rule) := by
  cases change with
  | add => rfl
  | remove index =>
    rw [answer, answer]
    cases symbolizers[index]? <;> rfl

end Change

section Lists

variable (s : Session) (change : Change) (i : Nat)

theorem withRules_rules : s.withRules s.rules = s := rfl

/-! ## Edits as operations on lists -/

theorem after_removeRule : s.after (.removeRule i) = s.withRules (s.rules.eraseIdx i) := by
  by_cases inside : i < s.rules.length
  · obtain ⟨before, rule, after, rules, rfl⟩ := exists_split inside
    rw [after_of_ok (effect_iff.1 (.removeRule rules)), rules, eraseIdx_split]
  · have outside := Nat.le_of_not_lt inside
    rw [after_of_error (effect_iff.1 (.noRule rfl outside)), List.eraseIdx_of_length_le outside,
      withRules_rules]

theorem after_change :
    s.after (change.edit i) = s.withRules (s.rules.modify i change.revise) := by
  by_cases inside : i < s.rules.length
  · obtain ⟨before, rule, after, rules, rfl⟩ := exists_split inside
    rw [rules, modify_split]
    cases change with
    | add => exact after_of_ok (effect_iff.1 (.addSymbolizer rules))
    | remove index =>
      by_cases there : index < rule.symbolizers.length
      · obtain ⟨xs, symbolizer, ys, symbolizers, rfl⟩ := exists_split there
        rw [Change.revise, Change.apply, symbolizers, eraseIdx_split]
        exact after_of_ok (effect_iff.1 (.removeSymbolizer rules symbolizers))
      · -- refused, and the rule is the same without a symbolizer beyond its last
        have outside := Nat.le_of_not_lt there
        rw [Change.revise, Change.apply, List.eraseIdx_of_length_le outside, ← rules]
        exact after_of_error (effect_iff.1 (.noSymbolizer rules outside))
  · have outside := Nat.le_of_not_lt inside
    have addressed : (change.edit i).rule? = some i := by cases change <;> rfl
    rw [after_of_error (effect_iff.1 (.noRule addressed outside)), List.modify_eq_self outside,
      withRules_rules]

/-! ## What edits give back -/

theorem answer_removeRule :
    s.answer (.removeRule i) =
      match s.rules[i]? with
      | some rule => .ok (.rule rule)
      | none => .error (.ruleOutOfRange i s.rules.length) := by
  rw [answer, edit, removeRule, rule?]
  cases s.rules[i]? <;> rfl

theorem answer_change :
    s.answer (change.edit i) =
      match s.rules[i]? with
      | some rule => change.answer i rule.symbolizers
      | none => .error (.ruleOutOfRange i s.rules.length) := by
  cases change with
  | add =>
    rw [answer, Change.edit, edit, addSymbolizer, rule?]
    cases s.rules[i]? <;> rfl
  | remove index =>
    cases found : s.rules[i]? with
    | none =>
      rw [answer, Change.edit, edit, removeSymbolizer, rule?, found]
      rfl
    | some rule =>
      cases there : rule.symbolizers[index]? <;>
        simp only [answer, Change.edit, edit, removeSymbolizer, rule?, found, bind, Except.bind,
          Change.answer, there] <;>
        rfl

end Lists

section InRange

variable {s t : Session} {rule : Rule} {symbolizer : Symbolizer} {i j k : Nat}

theorem removeRule_of_getElem? (here : s.rules[i]? = some rule) :
    s.removeRule i = .ok (rule, s.withRules (s.rules.eraseIdx i)) := by
  rw [removeRule, rule?, here]
  rfl

theorem removeSymbolizer_of_getElem? (here : s.rules[i]? = some rule)
    (there : rule.symbolizers[j]? = some symbolizer) :
    s.removeSymbolizer i j =
      .ok (symbolizer, s.withRules (s.rules.modify i (Change.remove j).revise)) := by
  obtain ⟨before, other, after, rules, rfl⟩ := exists_split (List.getElem?_eq_some_iff.1 here).1
  obtain rfl : other = rule := by simpa [rules] using here
  obtain ⟨xs, found, ys, symbolizers, rfl⟩ := exists_split (List.getElem?_eq_some_iff.1 there).1
  obtain rfl : found = symbolizer := by simpa [symbolizers] using there
  rw [removeSymbolizer_split rules symbolizers, rules, modify_split, Change.revise, Change.apply,
    symbolizers, eraseIdx_split]

theorem removeRule_eq_ok (made : s.removeRule i = .ok (rule, t)) :
    s.rules[i]? = some rule ∧ t = s.withRules (s.rules.eraseIdx i) := by
  cases here : s.rules[i]? with
  | none =>
    rw [removeRule_of_le (List.getElem?_eq_none_iff.1 here)] at made
    cases made
  | some other =>
    rw [removeRule_of_getElem? here] at made
    cases made
    exact ⟨rfl, rfl⟩

theorem removeSymbolizer_eq_ok (made : s.removeSymbolizer i j = .ok (symbolizer, t)) :
    ∃ rule, s.rules[i]? = some rule ∧ rule.symbolizers[j]? = some symbolizer ∧
      t = s.withRules (s.rules.modify i (Change.remove j).revise) := by
  cases here : s.rules[i]? with
  | none =>
    rw [removeSymbolizer_of_le (List.getElem?_eq_none_iff.1 here)] at made
    cases made
  | some rule =>
    cases there : rule.symbolizers[j]? with
    | none =>
      simp only [removeSymbolizer, rule?, here, bind, Except.bind, there] at made
      cases made
    | some other =>
      rw [removeSymbolizer_of_getElem? here there] at made
      cases made
      exact ⟨rule, rfl, there, rfl⟩

/-! ## Undoing -/

theorem removeRule_addRule (s : Session) :
    s.addRule.2.removeRule s.addRule.1 = .ok (Rule.starter (s.rules.length + 1), s) := by
  have added : s.addRule.2.rules = s.rules ++ [Rule.starter (s.rules.length + 1)] := rfl
  have whole : s.addRule.2.withRules s.rules = s := rfl
  have undone := removeRule_split added
  rwa [List.append_nil, whole] at undone

theorem removeSymbolizer_addSymbolizer (inside : i < s.rules.length) :
    ∃ j t, s.addSymbolizer i = .ok (j, t) ∧ t.removeSymbolizer i j = .ok (.starter, s) := by
  obtain ⟨before, rule, after, rules, rfl⟩ := exists_split inside
  have last : rule.symbolizers ++ [Symbolizer.starter] = rule.symbolizers ++ .starter :: [] := rfl
  have whole : s.withRules (before ++ rule :: after) = s := by rw [← rules, withRules_rules]
  refine ⟨_, _, addSymbolizer_split rules, ?_⟩
  rw [removeSymbolizer_split rfl last, List.append_nil]
  exact congrArg (fun t => Except.ok (Symbolizer.starter, t)) whole

/-! ## Other orders -/

theorem change_comm (c d : Change) (other : i ≠ k) :
    (s.after (c.edit i)).after (d.edit k) = (s.after (d.edit k)).after (c.edit i) ∧
      (s.after (c.edit i)).answer (d.edit k) = s.answer (d.edit k) := by
  have length : (s.withRules (s.rules.modify i c.revise)).rules.length = s.rules.length :=
    List.length_modify _ _ _
  have rest : (s.withRules (s.rules.modify i c.revise)).rules[k]? = s.rules[k]? :=
    List.getElem?_modify_ne _ _ other
  refine ⟨?_, ?_⟩
  · rw [after_change, after_change, after_change, after_change]
    exact congrArg s.withRules (List.modify_modify_ne _ _ _ other)
  · rw [after_change, answer_change, answer_change, length, rest]

theorem removeRule_removeRule (order : i ≤ j) (inside : j + 1 < s.rules.length) :
    ∃ first second one other t,
      s.removeRule i = .ok (first, one) ∧ one.removeRule j = .ok (second, t) ∧
        s.removeRule (j + 1) = .ok (second, other) ∧ other.removeRule i = .ok (first, t) := by
  have atI : s.rules[i]? = some s.rules[i] := List.getElem?_eq_getElem (by omega)
  have atJ : s.rules[j + 1]? = some s.rules[j + 1] := List.getElem?_eq_getElem inside
  have behind : (s.withRules (s.rules.eraseIdx i)).rules[j]? = some s.rules[j + 1] :=
    (List.getElem?_eraseIdx_of_ge order).trans atJ
  have before : (s.withRules (s.rules.eraseIdx (j + 1))).rules[i]? = some s.rules[i] :=
    (List.getElem?_eraseIdx_of_lt (by omega)).trans atI
  refine ⟨_, _, _, _, _, removeRule_of_getElem? atI, removeRule_of_getElem? behind,
    removeRule_of_getElem? atJ, ?_⟩
  rw [removeRule_of_getElem? before]
  exact congrArg (fun rules => Except.ok (s.rules[i], s.withRules rules))
    (eraseIdx_eraseIdx_of_le s.rules order).symm

theorem removeSymbolizer_removeSymbolizer (here : s.rules[k]? = some rule) (order : i ≤ j)
    (inside : j + 1 < rule.symbolizers.length) :
    ∃ first second one other t,
      s.removeSymbolizer k i = .ok (first, one) ∧ one.removeSymbolizer k j = .ok (second, t) ∧
        s.removeSymbolizer k (j + 1) = .ok (second, other) ∧
        other.removeSymbolizer k i = .ok (first, t) := by
  have atI : rule.symbolizers[i]? = some rule.symbolizers[i] := List.getElem?_eq_getElem (by omega)
  have atJ : rule.symbolizers[j + 1]? = some rule.symbolizers[j + 1] :=
    List.getElem?_eq_getElem inside
  have revised : ∀ change : Change,
      (s.withRules (s.rules.modify k change.revise)).rules[k]? = some (change.revise rule) := by
    intro change
    exact (List.getElem?_modify_eq _ _ _).trans (congrArg _ here)
  have behind : ((Change.remove i).revise rule).symbolizers[j]? = some rule.symbolizers[j + 1] :=
    (List.getElem?_eraseIdx_of_ge order).trans atJ
  have before : ((Change.remove (j + 1)).revise rule).symbolizers[i]? = some rule.symbolizers[i] :=
    (List.getElem?_eraseIdx_of_lt (by omega)).trans atI
  have same : (Change.remove j).revise ∘ (Change.remove i).revise =
      (Change.remove i).revise ∘ (Change.remove (j + 1)).revise := by
    funext r
    exact congrArg (fun xs => { r with symbolizers := xs })
      (eraseIdx_eraseIdx_of_le r.symbolizers order)
  refine ⟨_, _, _, _, _, removeSymbolizer_of_getElem? here atI,
    removeSymbolizer_of_getElem? (revised _) behind, removeSymbolizer_of_getElem? here atJ, ?_⟩
  rw [removeSymbolizer_of_getElem? (revised _) before]
  refine congrArg (fun rules => Except.ok (rule.symbolizers[i], s.withRules rules)) ?_
  exact (List.modify_modify_eq _ _ _ _).trans
    ((congrArg (s.rules.modify k) same.symm).trans (List.modify_modify_eq _ _ _ _).symm)

/-! ## Positions behind a deletion -/

theorem change_removeRule (c : Change) (before : k < i) (inside : i < s.rules.length) :
    (s.after (.removeRule k)).after (c.edit (i - 1)) =
        (s.after (c.edit i)).after (.removeRule k) ∧
      (s.after (.removeRule k)).answer (c.edit (i - 1)) =
        (s.answer (c.edit i)).mapError (.inRule (i - 1)) ∧
      (s.after (c.edit i)).answer (.removeRule k) = s.answer (.removeRule k) := by
  have back : i - 1 + 1 = i := by omega
  refine ⟨?_, ?_, ?_⟩
  · rw [after_removeRule, after_change, after_change, after_removeRule]
    have moved := List.modify_eraseIdx_of_ge c.revise k (i - 1) s.rules (by omega)
    rw [back] at moved
    exact congrArg s.withRules moved
  · have moved : (s.withRules (s.rules.eraseIdx k)).rules[i - 1]? = s.rules[i]? := by
      rw [← back]
      exact List.getElem?_eraseIdx_of_ge (by omega)
    have there : s.rules[i]? = some s.rules[i] := List.getElem?_eq_getElem inside
    rw [after_removeRule, answer_change, answer_change, moved, there]
    exact c.answer_inRule _ _ _
  · have length : (s.withRules (s.rules.modify i c.revise)).rules.length = s.rules.length :=
      List.length_modify _ _ _
    have rest : (s.withRules (s.rules.modify i c.revise)).rules[k]? = s.rules[k]? :=
      List.getElem?_modify_ne _ _ (by omega)
    rw [after_change, answer_removeRule, answer_removeRule, length, rest]

end InRange

/-- Taking out what was just added gives it back, and the session as it was. Changes in two
    different rules can be made in either order: they come to the same session and give back the
    same. So can two deletions of rules, and two of symbolizers of one rule, with the later position
    one further on when it is deleted first. A change in a rule can be made before or after the
    deletion of an earlier rule, in one position less then; it comes to the same session and gives
    back the same, but that an error names the rule by its position. -/
theorem position_laws (s : Session) :
    s.addRule.2.removeRule s.addRule.1 = .ok (Rule.starter (s.rules.length + 1), s) ∧
      (∀ i, i < s.rules.length →
        ∃ j t, s.addSymbolizer i = .ok (j, t) ∧ t.removeSymbolizer i j = .ok (.starter, s)) ∧
      (∀ (c d : Change) (i k : Nat), i ≠ k →
        (s.after (c.edit i)).after (d.edit k) = (s.after (d.edit k)).after (c.edit i) ∧
          (s.after (c.edit i)).answer (d.edit k) = s.answer (d.edit k) ∧
          (s.after (d.edit k)).answer (c.edit i) = s.answer (c.edit i)) ∧
      (∀ i j, i ≤ j → j + 1 < s.rules.length →
        ∃ first second one other t,
          s.removeRule i = .ok (first, one) ∧ one.removeRule j = .ok (second, t) ∧
            s.removeRule (j + 1) = .ok (second, other) ∧ other.removeRule i = .ok (first, t)) ∧
      (∀ k i j rule, s.rules[k]? = some rule → i ≤ j → j + 1 < rule.symbolizers.length →
        ∃ first second one other t,
          s.removeSymbolizer k i = .ok (first, one) ∧ one.removeSymbolizer k j = .ok (second, t) ∧
            s.removeSymbolizer k (j + 1) = .ok (second, other) ∧
            other.removeSymbolizer k i = .ok (first, t)) ∧
      ∀ (c : Change) (k i : Nat), k < i → i < s.rules.length →
        (s.after (.removeRule k)).after (c.edit (i - 1)) =
            (s.after (c.edit i)).after (.removeRule k) ∧
          (s.after (.removeRule k)).answer (c.edit (i - 1)) =
            (s.answer (c.edit i)).mapError (.inRule (i - 1)) ∧
          (s.after (c.edit i)).answer (.removeRule k) = s.answer (.removeRule k) := by
  refine ⟨removeRule_addRule s, fun i => removeSymbolizer_addSymbolizer, ?_,
    fun i j => removeRule_removeRule, fun k i j rule => removeSymbolizer_removeSymbolizer,
    fun c k i => change_removeRule c⟩
  intro c d i k other
  obtain ⟨same, second⟩ := change_comm c d other
  exact ⟨same, second, (change_comm d c (Ne.symm other)).2⟩

/-- A session with three rules, of which the second has three symbolizers and the last has none. -/
def crowded : Session :=
  { style :=
      { featureTypeStyle :=
          { rules :=
              [Rule.starter 1,
               { name := some "rule2", symbolizers := [.line {}, .unsupported .null, .point {}] },
               { name := some "rule2" }] } }
    layerName := none }

theorem position_laws_crowded :
    (∃ j t, crowded.addSymbolizer 2 = .ok (j, t) ∧
        t.removeSymbolizer 2 j = .ok (.starter, crowded)) ∧
      (crowded.after (.removeSymbolizer 1 1)).answer (.removeSymbolizer 2 0) =
        .error (.symbolizerOutOfRange 2 0 0) ∧
      (∃ first second one other t,
        crowded.removeRule 0 = .ok (first, one) ∧ one.removeRule 1 = .ok (second, t) ∧
          crowded.removeRule 2 = .ok (second, other) ∧ other.removeRule 0 = .ok (first, t)) ∧
      (∃ first second one other t,
        crowded.removeSymbolizer 1 1 = .ok (first, one) ∧
          one.removeSymbolizer 1 1 = .ok (second, t) ∧
          crowded.removeSymbolizer 1 2 = .ok (second, other) ∧
          other.removeSymbolizer 1 1 = .ok (first, t)) ∧
      (crowded.after (.removeRule 0)).answer (.removeSymbolizer 1 7) =
        .error (.symbolizerOutOfRange 1 7 0) := by
  obtain ⟨-, undone, apart, rules, symbolizers, behind⟩ := position_laws crowded
  refine ⟨undone 2 (by decide), ?_, rules 0 1 (by decide) (by decide),
    symbolizers 1 1 1 _ rfl (by decide) (by decide), ?_⟩
  · exact (apart (.remove 1) (.remove 0) 1 2 (by decide)).2.1.trans rfl
  · exact (behind (.remove 7) 0 2 (by decide) (by decide)).2.1.trans rfl

end Session

end MapStyle
