import MapStyle.Proofs.Filter.Grammar
import MapStyle.Proofs.Text.Parts

/-!
# Conditions as they are typed

A condition that is typed as a property, a word and an operand, with any white space around them, is
understood as just that. An earlier word can only get in the way if it stands in the operand, or at
its beginning with the blank before it: no word is found across the property's end, and none inside
another one. Main statement: `translate_typed`.
-/

namespace MapStyle.Filter

open Text (FirstCut isSolid isTrimmed betweenBlanks)

/-! ## Words between blanks -/

/-- Every comparison word is a symbol between blanks. -/
theorem exists_between_of_mem_grammarWords : ∀ word ∈ grammarWords,
    ∃ x, isSolid x = true ∧ word.1.toList = betweenBlanks x := by
  have inner : ∀ word ∈ grammarWords, isSolid word.1.toList.tail.dropLast = true ∧
      word.1.toList = betweenBlanks word.1.toList.tail.dropLast := by decide
  intro word member
  exact ⟨_, inner word member⟩

theorem exists_between_of_isLikeWord {word : List Char} (like : IsLikeWord word) :
    ∃ x, isSolid x = true ∧ word = betweenBlanks x := by
  obtain ⟨l, i, k, e, rfl, hl, hi, hk, he⟩ := like
  refine ⟨[l, i, k, e], ?_, rfl⟩
  rcases hl with rfl | rfl <;> rcases hi with rfl | rfl <;> rcases hk with rfl | rfl <;>
    rcases he with rfl | rfl <;> decide

theorem nodup_grammarWords : (grammarWords.map Prod.fst).Nodup := by decide

theorem not_isLikeWord_of_mem_grammarWords : ∀ word ∈ grammarWords, ¬ IsLikeWord word.1.toList := by
  simp only [isLikeWord_iff]
  decide

/-- Words that come earlier than another one are not that one. -/
theorem ne_of_mem_earlier {earlier later : List (String × Operator)} {word : String}
    {operator : Operator} (words : grammarWords = earlier ++ (word, operator) :: later)
    {other : String × Operator} (member : other ∈ earlier) : other.1 ≠ word := by
  rintro rfl
  have distinct := nodup_grammarWords
  rw [words, List.map_append, List.nodup_append] at distinct
  exact distinct.2.2 other.1 (List.mem_map_of_mem member) other.1 (by simp) rfl

theorem isTrimmed_of_isQuote {c : Char} (quote : isQuote c = true) : isTrimmed [c] = true := by
  rcases isQuotation_singleton.2 quote with none | same | same
  · cases none
  · rw [same]
    decide
  · rw [same]
    decide

/-! ## Comparisons and patterns as typed -/

/-- What is left of a typed condition once it is trimmed. -/
theorem trim_typed (w₂ word w₃ : String) {w₁ p operand w₄ : String} (blank₁ : Text.isBlank w₁ = true)
    (blank₄ : Text.isBlank w₄ = true) (property : isSolid p.toList = true)
    (trimmed : isTrimmed operand.toList = true) :
    Text.trim (w₁ ++ p ++ w₂ ++ word ++ w₃ ++ operand ++ w₄).toList =
      p.toList ++ w₂.toList ++ word.toList ++ (w₃.toList ++ operand.toList) := by
  have ends := Text.isTrimmed_append (w₂.toList ++ word.toList ++ w₃.toList)
    (Text.isTrimmed_of_isSolid property) trimmed
  simpa [String.toList_append] using Text.trim_padded blank₁ blank₄ ends

section

variable {w₁ w₂ w₃ w₄ p : String} (blank₁ : Text.isBlank w₁ = true) (blank₂ : Text.isBlank w₂ = true)
  (blank₃ : Text.isBlank w₃ = true) (blank₄ : Text.isBlank w₄ = true)
  (property : isSolid p.toList = true)

include blank₂ blank₃ property

/-- Comparison words that are not the word of a typed condition are found in it only if they stand
    in its operand or right before it. -/
theorem absent_typed {words : List (String × Operator)} {word operand : String} {m : List Char}
    (known : ∀ other ∈ words, other ∈ grammarWords) (symbol : isSolid m = true)
    (spelled : word.toList = betweenBlanks m) (different : ∀ other ∈ words, other.1 ≠ word)
    (absent : ∀ other ∈ words, ¬ other.1.toList <:+: ' ' :: operand.toList) :
    ∀ other ∈ words, ¬ other.1.toList <:+:
      p.toList ++ w₂.toList ++ word.toList ++ (w₃.toList ++ operand.toList) := by
  intro other member
  obtain ⟨x, solid, between⟩ := exists_between_of_mem_grammarWords other (known other member)
  have unlike : x ≠ m := by
    rintro rfl
    exact different other member (String.toList_inj.1 (between.trans spelled.symm))
  have behind := absent other member
  rw [between] at behind ⊢
  rw [spelled]
  exact Text.not_infix_between property blank₂ symbol blank₃ solid unlike behind

include blank₁ blank₄

/-- A typed comparison is read as its parts. -/
theorem reads_comparison {earlier later : List (String × Operator)} {word literal : String}
    {operator : Operator} (words : grammarWords = earlier ++ (word, operator) :: later)
    (trimmed : isTrimmed literal.toList = true)
    (absent : ∀ other ∈ earlier, ¬ other.1.toList <:+: ' ' :: literal.toList) :
    Reads (w₁ ++ p ++ w₂ ++ word ++ w₃ ++ literal ++ w₄)
      (.condition (.comparison operator p literal)) := by
  have known : ∀ other ∈ earlier, other ∈ grammarWords := by
    intro other member
    simp [words, member]
  obtain ⟨m, symbol, spelled⟩ := exists_between_of_mem_grammarWords (word, operator) (by simp [words])
  have text := trim_typed w₂ word w₃ blank₁ blank₄ property trimmed
  have missing := absent_typed blank₂ blank₃ property known symbol spelled
    (fun other => ne_of_mem_earlier words) absent
  have cut : FirstCut (· = word.toList)
      (p.toList ++ w₂.toList ++ betweenBlanks m ++ (w₃.toList ++ literal.toList))
      (p.toList ++ w₂.toList) (betweenBlanks m) (w₃.toList ++ literal.toList) :=
    Text.firstCut_between property blank₂ symbol blank₃ spelled.symm
      fun other same => ⟨m, symbol, same.trans spelled⟩
  rw [← spelled, ← text] at cut
  rw [← text] at missing
  have reads := Reads.comparison words missing cut
  rwa [Text.trim_append_blank blank₂ (Text.isTrimmed_of_isSolid property),
    Text.trim_blank_append blank₃ trimmed, String.ofList_toList, String.ofList_toList] at reads

/-- A typed pattern match is read as its parts, without the quotes. -/
theorem reads_like {word pattern : String} {x y : Char} (like : IsLikeWord word.toList)
    (opening : isQuote x = true) (closing : isQuote y = true)
    (absent : ∀ other ∈ grammarWords, ¬ other.1.toList <:+: ' ' :: x :: (pattern.toList ++ [y])) :
    Reads (w₁ ++ p ++ w₂ ++ word ++ w₃ ++ (String.singleton x ++ pattern ++ String.singleton y) ++ w₄)
      (.condition (.like p pattern)) := by
  generalize shape : String.singleton x ++ pattern ++ String.singleton y = operand
  have quoted : operand.toList = x :: (pattern.toList ++ [y]) := by
    simp [← shape, String.toList_append]
  have trimmed : isTrimmed operand.toList = true := by
    rw [quoted]
    exact Text.isTrimmed_append pattern.toList (isTrimmed_of_isQuote opening)
      (isTrimmed_of_isQuote closing)
  have unquoted : Unquoted operand.toList pattern.toList :=
    ⟨[x], [y], isQuotation_singleton.2 opening, isQuotation_singleton.2 closing, quoted, by simp,
      by simp⟩
  rw [← quoted] at absent
  obtain ⟨m, symbol, spelled⟩ := exists_between_of_isLikeWord like
  have different : ∀ other ∈ grammarWords, other.1 ≠ word := by
    rintro other member rfl
    exact not_isLikeWord_of_mem_grammarWords other member like
  have text := trim_typed w₂ word w₃ blank₁ blank₄ property trimmed
  have missing := absent_typed blank₂ blank₃ property (fun _ => id) symbol spelled different absent
  have cut := Text.firstCut_between (s := operand.toList) property blank₂ symbol blank₃ (spelled ▸ like)
    fun other => exists_between_of_isLikeWord
  rw [← spelled, ← text] at cut
  rw [← text] at missing
  rw [← Text.trim_blank_append blank₃ trimmed] at unquoted
  have reads := Reads.like missing cut unquoted
  rwa [Text.trim_append_blank blank₂ (Text.isTrimmed_of_isSolid property), String.ofList_toList,
    String.ofList_toList] at reads

end

/-- A condition that is typed with any white space around its parts is understood as these parts. The
    property is a word of its own. The literal of a comparison must not begin or end with white
    space, and no word that counts before the one typed may stand in it, or right before it with the
    blank there; other words in it, and the same one once more, do no harm. The word of a pattern
    match may be spelled in any letter case, and the pattern is what stands between the two quotes,
    be it blank, empty or quoted again, as long as no comparison word stands there. -/
theorem translate_typed (w₁ p w₂ w₃ w₄ : String)
    (blank : ∀ w ∈ [w₁, w₂, w₃, w₄], Text.isBlank w = true) (property : isSolid p.toList = true) :
    (∀ earlier word operator later literal,
        grammarWords = earlier ++ (word, operator) :: later →
        isTrimmed literal.toList = true →
        (∀ other ∈ earlier, ¬ other.1.toList <:+: ' ' :: literal.toList) →
        translate (w₁ ++ p ++ w₂ ++ word ++ w₃ ++ literal ++ w₄) =
          .condition (.comparison operator p literal)) ∧
      ∀ word pattern x y, IsLikeWord word.toList → isQuote x = true → isQuote y = true →
        (∀ other ∈ grammarWords,
          ¬ other.1.toList <:+: ' ' :: x :: (pattern.toList ++ [y])) →
        translate (w₁ ++ p ++ w₂ ++ word ++ w₃ ++
            (String.singleton x ++ pattern ++ String.singleton y) ++ w₄) =
          .condition (.like p pattern) := by
  simp only [List.forall_mem_cons, List.not_mem_nil, false_implies, implies_true, and_true] at blank
  obtain ⟨blank₁, blank₂, blank₃, blank₄⟩ := blank
  refine ⟨?_, ?_⟩
  · intro earlier word operator later literal words trimmed absent
    exact translate_of_reads
      (reads_comparison blank₁ blank₂ blank₃ blank₄ property words trimmed absent)
  · intro word pattern x y like opening closing absent
    exact translate_of_reads
      (reads_like blank₁ blank₂ blank₃ blank₄ property like opening closing absent)

/-- A literal with the word it was typed behind and with a later one, and a quoted pattern. -/
theorem translate_typed_nested :
    (∀ w ∈ ["\u00a0", "\t ", "", "\n"], Text.isBlank w = true) ∧ isSolid "é<".toList = true ∧
      isTrimmed "1 >= 2 <> 3".toList = true ∧ IsLikeWord " LiKe ".toList ∧
      translate ("\u00a0" ++ "é<" ++ "\t " ++ " >= " ++ "" ++ "1 >= 2 <> 3" ++ "\n") =
        .condition (.comparison .greaterThanOrEqualTo "é<" "1 >= 2 <> 3") ∧
      translate ("\u00a0" ++ "é<" ++ "\t " ++ " LiKe " ++ "" ++
          (String.singleton '\x22' ++ "' like \x22" ++ String.singleton '\x27') ++ "\n") =
        .condition (.like "é<" "' like \x22") := by
  have blank : ∀ w ∈ ["\u00a0", "\t ", "", "\n"], Text.isBlank w = true := by decide
  have property : isSolid "é<".toList = true := by decide
  have trimmed : isTrimmed "1 >= 2 <> 3".toList = true := by decide
  have like : IsLikeWord " LiKe ".toList := isLikeWord_iff.2 (by decide)
  have unsplit : ∀ other ∈ [(" = ", Operator.equalTo), (" > ", .greaterThan), (" < ", .lessThan)],
      Text.splitFirst other.1.toList (' ' :: "1 >= 2 <> 3".toList) = none := by decide
  have unsplit' : ∀ other ∈ grammarWords, Text.splitFirst other.1.toList
      (' ' :: '\x22' :: ("' like \x22".toList ++ ['\x27'])) = none := by decide
  obtain ⟨comparison, pattern⟩ := translate_typed "\u00a0" "é<" "\t " "" "\n" blank property
  exact ⟨blank, property, trimmed, like,
    comparison _ " >= " .greaterThanOrEqualTo _ _ rfl trimmed
      fun other member => Text.splitFirst_eq_none_iff.1 (unsplit other member),
    pattern " LiKe " "' like \x22" '\x22' '\x27' like rfl rfl
      fun other member => Text.splitFirst_eq_none_iff.1 (unsplit' other member)⟩

/-- An earlier word that begins with the blank before the literal is the one that counts. -/
example : translate "a > = b" = .condition (.comparison .equalTo "a >" "b") := by decide

end MapStyle.Filter
