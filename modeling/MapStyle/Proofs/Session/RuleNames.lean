import MapStyle.Proofs.Session.Positions
import MapStyle.Proofs.Session.Repair
import MapStyle.Proofs.Sld.Warnings
import Mathlib.Data.List.InsertIdx

/-!
# The names of rules

A rule gets its name when it is added, by how many rules there are then, and keeps it. When a rule
before others is taken out, the count falls behind the names, and the next rule can get a name that
another one has. The names of a session tell its rules apart as long as no rule is added under a
name that is taken, and no longer. Main statement: `Session.names_exact`.
-/

namespace MapStyle

open Xml (Node Item contentsOf select)
open Sld

/-- The name of the rule that is added as number `n`. -/
def Rule.starterName (n : Nat) : Option String := (Rule.starter n).name

theorem Rule.starterName_injective : Function.Injective Rule.starterName := by
  intro n m same
  have texts : "rule" ++ toString n = "rule" ++ toString m := Option.some.inj same
  have digits : Nat.toDigits 10 n = Nat.toDigits 10 m :=
    String.ofList_injective ((String.append_right_inj "rule").1 texts)
  rw [← Nat.ofDigitChars_ten_toDigits (n := n), digits, Nat.ofDigitChars_ten_toDigits]

namespace Session

/-- The names of the rules in order. -/
def names (s : Session) : List (Option String) := s.rules.map Rule.name

/-- The rules bear the names of the rules that are added under these numbers. -/
def NumberedBy (s : Session) (numbers : List Nat) : Prop :=
  s.names = numbers.map Rule.starterName

/-- The numbers of a session's rules after an edit that brings no style. -/
def Edit.renumber (numbers : List Nat) : Edit → List Nat
  | .reset => [1]
  | .addRule => numbers ++ [numbers.length + 1]
  | .removeRule index => numbers.eraseIdx index
  | _ => numbers

theorem numberedBy_starter : starter.NumberedBy [1] := rfl

section Names

variable {s : Session} {numbers : List Nat}

theorem NumberedBy.length (numbered : s.NumberedBy numbers) :
    s.rules.length = numbers.length := by
  rw [← List.length_map (f := Rule.name), ← List.length_map (f := Rule.starterName)]
  exact congrArg List.length numbered

theorem NumberedBy.nodup_iff (numbered : s.NumberedBy numbers) :
    s.names.Nodup ↔ numbers.Nodup := by
  rw [show s.names = _ from numbered]
  exact List.nodup_map_iff Rule.starterName_injective

/-! ## Names through edits -/

theorem names_change (s : Session) (change : Change) (i : Nat) :
    (s.after (change.edit i)).names = s.names := by
  rw [after_change]
  apply List.ext_getElem?
  intro n
  show ((s.rules.modify i change.revise).map Rule.name)[n]? = (s.rules.map Rule.name)[n]?
  rw [List.getElem?_map, List.getElem?_map, List.getElem?_modify]
  cases s.rules[n]? with
  | none => rfl
  | some rule => by_cases here : i = n <;> simp [here, Change.revise]

/-- No edit gives a rule another name. -/
theorem NumberedBy.after (numbered : s.NumberedBy numbers) {e : Edit}
    (own : e.bringsStyle = false) : (s.after e).NumberedBy (e.renumber numbers) := by
  cases e with
  | create style => cases own
  | load session => cases own
  | replaceStyle style => cases own
  | reset => exact numberedBy_starter
  | setLayerName layer => exact numbered
  | addRule =>
    have added : (s.after .addRule).names = s.names ++ [Rule.starterName (s.rules.length + 1)] :=
      List.map_append
    rw [NumberedBy, added, numbered, numbered.length, Edit.renumber, List.map_append]
    rfl
  | removeRule index =>
    have removed : (s.after (.removeRule index)).names = s.names.eraseIdx index := by
      rw [after_removeRule]
      exact (List.eraseIdx_map _ _ _).symm
    rw [NumberedBy, removed, numbered, Edit.renumber, List.eraseIdx_map]
  | addSymbolizer rule => exact (s.names_change .add rule).trans numbered
  | removeSymbolizer rule index => exact (s.names_change (.remove index) rule).trans numbered

theorem NumberedBy.afterAll {edits : List Edit} (numbered : s.NumberedBy numbers)
    (own : ∀ e ∈ edits, e.bringsStyle = false) :
    (s.afterAll edits).NumberedBy (edits.foldl Edit.renumber numbers) := by
  induction edits generalizing s numbers with
  | nil => exact numbered
  | cons e edits ih =>
    obtain ⟨here, later⟩ := List.forall_mem_cons.1 own
    exact ih (numbered.after here) later

end Names

/-! ## The numbers there can be -/

/-- Every number is beyond its index: since a rule was added at the end, it has only moved up. -/
def Beyond (numbers : List Nat) : Prop := ∀ i n : Nat, numbers[i]? = some n → i < n

theorem beyond_renumber {numbers : List Nat} (beyond : Beyond numbers) (e : Edit) :
    Beyond (e.renumber numbers) := by
  intro i n here
  cases e with
  | reset =>
    obtain ⟨rfl, rfl⟩ : i = 0 ∧ 1 = n := by
      cases i <;> simp [Edit.renumber] at here ⊢
      exact here
    decide
  | addRule =>
    rw [Edit.renumber, List.getElem?_append] at here
    split at here
    · exact beyond i n here
    · obtain ⟨first, rfl⟩ := List.getElem?_eq_some_iff.1 here
      simp at first ⊢
      omega
  | removeRule index =>
    rw [Edit.renumber, List.getElem?_eraseIdx] at here
    split at here
    · exact beyond i n here
    · exact Nat.lt_of_succ_lt (beyond (i + 1) n here)
  | create style => exact beyond i n here
  | load session => exact beyond i n here
  | replaceStyle style => exact beyond i n here
  | setLayerName layer => exact beyond i n here
  | addSymbolizer rule => exact beyond i n here
  | removeSymbolizer rule index => exact beyond i n here

theorem beyond_foldl {numbers : List Nat} (beyond : Beyond numbers) (edits : List Edit) :
    Beyond (edits.foldl Edit.renumber numbers) := by
  induction edits generalizing numbers with
  | nil => exact beyond
  | cons e edits ih => exact ih (beyond_renumber beyond e)

theorem foldl_addRule (numbers : List Nat) (count : Nat) :
    (List.replicate count Edit.addRule).foldl Edit.renumber numbers =
      numbers ++ List.range' (numbers.length + 1) count := by
  induction count generalizing numbers with
  | zero => simp
  | succ count ih =>
    rw [List.replicate_succ, List.foldl_cons, ih, Edit.renumber, List.length_append,
      List.range'_succ, List.append_assoc]
    rfl

theorem foldl_removeRule (numbers gone rest : List Nat) :
    (List.replicate gone.length (Edit.removeRule numbers.length)).foldl Edit.renumber
      (numbers ++ gone ++ rest) = numbers ++ rest := by
  induction gone with
  | nil => simp
  | cons n gone ih =>
    rw [List.length_cons, List.replicate_succ, List.foldl_cons, Edit.renumber, List.append_assoc,
      List.cons_append, eraseIdx_split, ← List.append_assoc, ih]

/-- All such numbers come about: a rule gets a number beyond the next one when enough rules are
    added before it, which are taken out again then. -/
theorem exists_edits {numbers : List Nat} (beyond : Beyond numbers) :
    ∃ edits : List Edit, (∀ e ∈ edits, e.bringsStyle = false) ∧
      edits.foldl Edit.renumber [1] = numbers := by
  generalize same : numbers.length = count
  induction count generalizing numbers with
  | zero =>
    obtain rfl := List.eq_nil_of_length_eq_zero same
    exact ⟨[.removeRule 0], by simp [Edit.bringsStyle], rfl⟩
  | succ count ih =>
    obtain ⟨front, n, rfl⟩ : ∃ front n, numbers = front ++ [n] := by
      rcases List.eq_nil_or_concat numbers with rfl | ⟨front, n, rfl⟩
      · cases same
      · exact ⟨front, n, List.concat_eq_append⟩
    have above : front.length < n := beyond _ _ (by simp)
    have below : Beyond front := by
      intro i m here
      have inside : i < front.length := (List.getElem?_eq_some_iff.1 here).1
      exact beyond i m (by rw [List.getElem?_append_left inside, here])
    obtain ⟨edits, own, reached⟩ := ih below (by simpa using same)
    obtain ⟨more, rfl⟩ : ∃ more, n = front.length + 1 + more := ⟨n - front.length - 1, by omega⟩
    refine ⟨edits ++ List.replicate (more + 1) .addRule ++
      List.replicate more (.removeRule front.length), ?_, ?_⟩
    · intro e member
      simp only [List.mem_append, List.mem_replicate] at member
      rcases member with (old | ⟨-, rfl⟩) | ⟨-, rfl⟩
      · exact own e old
      · rfl
      · rfl
    · have gone := foldl_removeRule front (List.range' (front.length + 1) more)
        [front.length + 1 + more]
      rw [List.length_range'] at gone
      rw [List.foldl_append, List.foldl_append, reached, foldl_addRule, List.range'_1_concat,
        ← List.append_assoc, gone]

/-! ## Runs of edits -/

/-- Every edit of a run has a property in the session in which it is made. -/
def Along (P : Session → Edit → Prop) : Session → List Edit → Prop
  | _, [] => True
  | s, e :: edits => P s e ∧ Along P (s.after e) edits

instance decidableAlong {P : Session → Edit → Prop} [∀ s e, Decidable (P s e)] :
    ∀ s edits, Decidable (Along P s edits)
  | _, [] => isTrue trivial
  | s, e :: edits =>
    have := decidableAlong (P := P) (s.after e) edits
    inferInstanceAs (Decidable (P s e ∧ Along P (s.after e) edits))

/-- A rule that is added gets a name that no other rule has. -/
def AddsFresh (s : Session) : Edit → Prop
  | .addRule => Rule.starterName (s.rules.length + 1) ∉ s.names
  | _ => True

/-- No rule is taken out but the last one. -/
def TakesLast (s : Session) : Edit → Prop
  | .removeRule index => s.rules.length ≤ index + 1
  | _ => True

instance (s : Session) : ∀ e, Decidable (AddsFresh s e)
  | .addRule => inferInstanceAs (Decidable (_ ∉ _))
  | .create _ | .load _ | .replaceStyle _ | .reset | .setLayerName _ | .removeRule _
  | .addSymbolizer _ | .removeSymbolizer _ _ => isTrue trivial

instance (s : Session) : ∀ e, Decidable (TakesLast s e)
  | .removeRule _ => inferInstanceAs (Decidable (_ ≤ _))
  | .create _ | .load _ | .replaceStyle _ | .reset | .setLayerName _ | .addRule
  | .addSymbolizer _ | .removeSymbolizer _ _ => isTrue trivial

section Runs

variable {s : Session} {numbers : List Nat}

/-- Only adding a rule can make two names alike. -/
theorem nodup_after_iff (numbered : s.NumberedBy numbers) (distinct : s.names.Nodup) {e : Edit}
    (own : e.bringsStyle = false) : (s.after e).names.Nodup ↔ AddsFresh s e := by
  have old := numbered.nodup_iff.1 distinct
  rw [(numbered.after own).nodup_iff]
  cases e with
  | create style => cases own
  | load session => cases own
  | replaceStyle style => cases own
  | addRule =>
    have taken : Rule.starterName (s.rules.length + 1) ∈ s.names ↔
        numbers.length + 1 ∈ numbers := by
      rw [show s.names = _ from numbered, numbered.length]
      exact List.mem_map_of_injective Rule.starterName_injective
    rw [AddsFresh, taken, Edit.renumber, ← List.concat_eq_append, List.nodup_concat]
    exact and_iff_left old
  | reset => simp [Edit.renumber, AddsFresh]
  | removeRule index => simp [Edit.renumber, AddsFresh, old.eraseIdx index]
  | setLayerName layer => simp [Edit.renumber, AddsFresh, old]
  | addSymbolizer rule => simp [Edit.renumber, AddsFresh, old]
  | removeSymbolizer rule index => simp [Edit.renumber, AddsFresh, old]

/-- The names stay apart all along a run exactly if every rule is added under a fresh name. -/
theorem along_addsFresh_iff {edits : List Edit} (numbered : s.NumberedBy numbers)
    (distinct : s.names.Nodup) (own : ∀ e ∈ edits, e.bringsStyle = false) :
    Along AddsFresh s edits ↔ ∀ k, (s.afterAll (edits.take k)).names.Nodup := by
  induction edits generalizing s numbers with
  | nil => simpa [Along] using distinct
  | cons e edits ih =>
    obtain ⟨here, later⟩ := List.forall_mem_cons.1 own
    have step := nodup_after_iff numbered distinct here
    constructor
    · rintro ⟨fresh, rest⟩ k
      cases k with
      | zero => exact distinct
      | succ k => exact (ih (numbered.after here) (step.2 fresh) later).1 rest k
    · intro all
      have next : (s.after e).names.Nodup := all 1
      exact ⟨step.1 next, (ih (numbered.after here) next later).2 fun k => all (k + 1)⟩

/-- While only last rules are taken out, the rules are numbered in their order. -/
theorem numberedBy_range' {edits : List Edit} {count : Nat}
    (numbered : s.NumberedBy (List.range' 1 count)) (own : ∀ e ∈ edits, e.bringsStyle = false)
    (last : Along TakesLast s edits) :
    ∃ n, (s.afterAll edits).NumberedBy (List.range' 1 n) := by
  induction edits generalizing s count with
  | nil => exact ⟨count, numbered⟩
  | cons e edits ih =>
    obtain ⟨here, later⟩ := List.forall_mem_cons.1 own
    obtain ⟨now, rest⟩ := last
    have length := numbered.length
    rw [List.length_range'] at length
    have step : ∃ n, e.renumber (List.range' 1 count) = List.range' 1 n := by
      cases e with
      | reset => exact ⟨1, rfl⟩
      | addRule =>
        refine ⟨count + 1, ?_⟩
        rw [Edit.renumber, List.length_range', List.range'_1_concat, Nat.add_comm 1]
      | removeRule index =>
        have atEnd : s.rules.length ≤ index + 1 := now
        rcases Nat.lt_or_ge index count with inside | outside
        · obtain rfl : count = index + 1 := by omega
          refine ⟨index, ?_⟩
          have split := eraseIdx_split (List.range' 1 index) (1 + index) []
          rwa [List.length_range', ← List.range'_1_concat, List.append_nil] at split
        · exact ⟨count, List.eraseIdx_of_length_le (by rwa [List.length_range'])⟩
      | create style => cases here
      | load session => cases here
      | replaceStyle style => cases here
      | setLayerName layer => exact ⟨count, rfl⟩
      | addSymbolizer rule => exact ⟨count, rfl⟩
      | removeSymbolizer rule index => exact ⟨count, rfl⟩
    obtain ⟨n, renumbered⟩ := step
    exact ih (renumbered ▸ numbered.after here) later rest

end Runs

end Session

/-! ## Names in documents -/

namespace Rule

/-- The name of a numbered rule is what messages call it. -/
theorem nonBlank?_starterName (n : Nat) :
    Text.nonBlank? (starterName n) = some ("rule" ++ toString n) := by
  have filled : Text.isBlank ("rule" ++ toString n) = false := by
    rw [Text.isBlank, String.toList_append, List.all_append]
    rfl
  show Text.nonBlank? (some ("rule" ++ toString n)) = _
  rw [Text.nonBlank?_some, filled]
  rfl

/-- A rule with a name that is not blank says it first in its element. -/
theorem head?_contentsOf_name {rule : Rule} {text : String}
    (named : Text.nonBlank? rule.name = some text) :
    (contentsOf "Name" rule.content).head? = some (Xml.chars text.toList) := by
  obtain ⟨rest, first⟩ : ∃ rest, rule.frontNodes ++
      rule.symbolizers.filterMap Symbolizer.node? = .leaf "Name" [] text :: rest := by
    rw [frontNodes, headNodes, textElement, named]
    exact ⟨_, rfl⟩
  rw [contentsOf, content, first, Xml.select_inside fun _ => rfl,
    Xml.select_laidOutAll_cons fun _ => rfl, Xml.select_leaf fun _ => rfl]
  rfl

end Rule

/-- The names that the elements of rules begin with. -/
def Sld.ruleNamesIn (items : List Item) : List (Option String) :=
  (contentsOf "Rule" items).map fun content => (contentsOf "Name" content).head?.bind Xml.text?

namespace Session

section Named

variable {s : Session} {numbers : List Nat}

theorem NumberedBy.exists_number (numbered : s.NumberedBy numbers) {rule : Rule}
    (member : rule ∈ s.rules) : ∃ n, rule.name = Rule.starterName n := by
  have inside : rule.name ∈ s.names := List.mem_map_of_mem member
  rw [show s.names = _ from numbered] at inside
  obtain ⟨n, -, same⟩ := List.mem_map.1 inside
  exact ⟨n, same.symm⟩

theorem NumberedBy.labels (numbered : s.NumberedBy numbers) :
    s.rules.map (fun rule => some rule.label) = s.names := by
  apply List.map_congr_left
  intro rule member
  obtain ⟨n, name⟩ := numbered.exists_number member
  rw [Rule.label, name, Rule.nonBlank?_starterName]
  rfl

/-- A document has the rules under their names. -/
theorem NumberedBy.ruleNamesIn (numbered : s.NumberedBy numbers) (layer : Option String) :
    ruleNamesIn [.char '\n', (s.style.tree layer).laidOut 0, .char '\n'] = s.names := by
  rw [Sld.ruleNamesIn, Style.contentsOf_rule_document, List.map_map]
  apply List.map_congr_left
  intro rule member
  obtain ⟨n, name⟩ := numbered.exists_number member
  have filled : Text.nonBlank? rule.name = some ("rule" ++ toString n) := by
    rw [name, Rule.nonBlank?_starterName]
  rw [Function.comp_apply, Rule.head?_contentsOf_name filled, Option.bind_some, Xml.text?_chars,
    String.ofList_toList, name]
  rfl

end Named

/-- However rules are added and taken out from the starter session on, every rule is named `rule`
    with a number beyond its index, and all lists of such numbers come about, with repetitions too.
    The names are all different throughout a run of edits exactly if every rule is added under a
    name that is not taken; so they are if only last rules are taken out, and then the rules are
    numbered in their order. The name of a rule is what messages call it and what its element in the
    document says. -/
theorem names_exact :
    (∀ edits : List Edit, (∀ e ∈ edits, e.bringsStyle = false) →
      let t := starter.afterAll edits
      (Along AddsFresh starter edits ↔ ∀ k, (starter.afterAll (edits.take k)).names.Nodup) ∧
        (Along TakesLast starter edits → t.NumberedBy (List.range' 1 t.rules.length)) ∧
        (∃ numbers, t.NumberedBy numbers ∧ Beyond numbers) ∧
        t.rules.map (fun rule => some rule.label) = t.names ∧
        ∃ document items, t.compile.outcome = .ok document ∧
          Xml.readForest document.text = some items ∧ ruleNamesIn items = t.names) ∧
      ∀ numbers, Beyond numbers → ∃ edits : List Edit, (∀ e ∈ edits, e.bringsStyle = false) ∧
        (starter.afterAll edits).NumberedBy numbers := by
  refine ⟨?_, ?_⟩
  · intro edits own t
    have numbered : t.NumberedBy _ := numberedBy_starter.afterAll own
    have noRule : Beyond [] := by simp [Beyond]
    have beyond : Beyond (edits.foldl Edit.renumber [1]) :=
      beyond_foldl (beyond_renumber noRule .reset) edits
    have known : t.style.Supported := supported_afterAll (s := starter) (by decide) own
    refine ⟨along_addsFresh_iff numberedBy_starter (by decide) own, ?_, ⟨_, numbered, beyond⟩,
      numbered.labels, ?_⟩
    · intro last
      have first : starter.NumberedBy (List.range' 1 1) := numberedBy_starter
      obtain ⟨n, ordered⟩ := numberedBy_range' first own last
      have length : t.rules.length = n := by rw [ordered.length, List.length_range']
      rw [length]
      exact ordered
    · have compiled := congrArg Run.outcome (Style.compile_supported known t.layerName)
      exact ⟨_, _, compiled, Xml.readForest_tree (wellNamed_tree t.style t.layerName),
        numbered.ruleNamesIn t.layerName⟩
  · intro numbers beyond
    obtain ⟨edits, own, reached⟩ := exists_edits beyond
    exact ⟨edits, own, reached ▸ numberedBy_starter.afterAll own⟩

/-- Rules added, and last rules taken out, with two refused edits among the rest. -/
def tidied : List Edit :=
  [.addRule, .addSymbolizer 1, .removeRule 1, .removeRule 7, .addRule, .setLayerName (some "roads"),
   .removeSymbolizer 0 3, .addRule]

theorem names_exact_tidied :
    (∀ e ∈ tidied, e.bringsStyle = false) ∧ Along TakesLast starter tidied ∧
      (starter.afterAll tidied).NumberedBy [1, 2, 3] ∧ Along AddsFresh starter tidied ∧
      (∀ k, (starter.afterAll (tidied.take k)).names.Nodup) ∧
      (∃ document items, (starter.afterAll tidied).compile.outcome = .ok document ∧
        Xml.readForest document.text = some items ∧
        ruleNamesIn items = [some "rule1", some "rule2", some "rule3"]) ∧
      Beyond [2, 5, 3] ∧ ∃ edits : List Edit, (∀ e ∈ edits, e.bringsStyle = false) ∧
        (starter.afterAll edits).NumberedBy [2, 5, 3] := by
  obtain ⟨runs, reached⟩ := names_exact
  have own : ∀ e ∈ tidied, e.bringsStyle = false := by decide
  have last : Along TakesLast starter tidied := by decide
  have fresh : Along AddsFresh starter tidied := by decide
  have beyond : Beyond [2, 5, 3] := by
    intro i n here
    rcases i with _ | _ | _ | i <;> simp at here <;> omega
  obtain ⟨apart, ordered, -, -, document, items, compiled, read, shown⟩ := runs tidied own
  exact ⟨own, last, ordered last, fresh, apart.1 fresh,
    ⟨document, items, compiled, read, shown⟩, beyond, reached _ beyond⟩

/-- A rule taken out before another one, and a rule added then. -/
def reused : List Edit := [.addRule, .removeRule 0, .addRule]

/-- Two rules of one session can have the same name. -/
theorem names_reused :
    (∀ e ∈ reused, e.bringsStyle = false) ∧
      (starter.afterAll reused).names = [some "rule2", some "rule2"] ∧
      ¬ (starter.afterAll reused).names.Nodup := by
  have names : (starter.afterAll reused).names = [some "rule2", some "rule2"] := rfl
  refine ⟨by decide, names, ?_⟩
  rw [names]
  decide

end Session

end MapStyle
