import MapStyle.Proofs.Filter.Patterns

/-!
# The grammar of typed filters

`Reads` says what a typed filter means, without regard to how that is found out: the first of the
comparison words that stands anywhere in the trimmed text cuts it, at the first place where it
stands; if there is none, the word of a pattern match does so in any letter case. A translation is
what the grammar says and nothing else, and the bytes counted in the lower-case copy of a text are
those of the text itself. Main statement: `translate_grammar`.
-/

namespace MapStyle.Filter

open Text (FirstCut isTrimmed)

/-! ## The grammar -/

/-- The comparison words in the order in which they count. -/
def grammarWords : List (String × Operator) :=
  [(" = ", .equalTo), (" > ", .greaterThan), (" < ", .lessThan), (" >= ", .greaterThanOrEqualTo),
   (" <= ", .lessThanOrEqualTo), (" != ", .notEqualTo), (" <> ", .notEqualTo)]

/-- What a typed filter means. -/
inductive Reads (expression : String) : Translation → Prop
  | blank (nothing : Text.trim expression.toList = []) : Reads expression .noFilter
  | comparison {earlier later : List (String × Operator)} {word : String} {operator : Operator}
      {left right : List Char} (words : grammarWords = earlier ++ (word, operator) :: later)
      (absent : ∀ other ∈ earlier, ¬ other.1.toList <:+: Text.trim expression.toList)
      (cut : FirstCut (· = word.toList) (Text.trim expression.toList) left word.toList right) :
    Reads expression (.condition (.comparison operator (String.ofList (Text.trim left))
      (String.ofList (Text.trim right))))
  | like {left word right pattern : List Char}
      (absent : ∀ other ∈ grammarWords, ¬ other.1.toList <:+: Text.trim expression.toList)
      (cut : FirstCut IsLikeWord (Text.trim expression.toList) left word right)
      (unquoted : Unquoted (Text.trim right) pattern) :
    Reads expression (.condition (.like (String.ofList (Text.trim left)) (String.ofList pattern)))
  | unparsable (some : Text.trim expression.toList ≠ [])
      (absent : ∀ other ∈ grammarWords, ¬ other.1.toList <:+: Text.trim expression.toList)
      (unlike : ∀ word, IsLikeWord word → ¬ word <:+: Text.trim expression.toList) :
    Reads expression (.unparsable expression)

/-! ## Comparisons -/

/-- The words as texts of characters. -/
def spelled (words : List (String × Operator)) : List (List Char × Operator) :=
  words.map fun word => (word.1.toList, word.2)

theorem comparisonWords_eq : comparisonWords = spelled grammarWords := by decide

/-- The word that counts is the first one that stands anywhere, and nothing else does. -/
theorem firstComparison?_append {s left right : List Char} {earlier later : List (String × Operator)}
    {word : String} {operator : Operator}
    (absent : ∀ other ∈ earlier, ¬ other.1.toList <:+: s)
    (cut : FirstCut (· = word.toList) s left word.toList right) :
    firstComparison? s (spelled (earlier ++ (word, operator) :: later)) =
      some (.comparison operator (String.ofList (Text.trim left))
        (String.ofList (Text.trim right))) := by
  induction earlier with
  | nil =>
    have found := Text.splitFirst_eq_some_iff.2 cut
    simp only [spelled, List.nil_append, List.map_cons, firstComparison?, found]
  | cons other earlier ih =>
    obtain ⟨notHere, notLater⟩ := List.forall_mem_cons.1 absent
    have missed := Text.splitFirst_eq_none_iff.2 notHere
    simp only [spelled, List.cons_append, List.map_cons, firstComparison?, missed]
    exact ih notLater

theorem firstComparison?_eq_none {s : List Char} {words : List (String × Operator)} :
    firstComparison? s (spelled words) = none ↔ ∀ word ∈ words, ¬ word.1.toList <:+: s := by
  induction words with
  | nil => simp [spelled, firstComparison?]
  | cons word words ih =>
    rw [List.forall_mem_cons, ← Text.splitFirst_eq_none_iff, ← ih, spelled, List.map_cons,
      firstComparison?]
    cases Text.splitFirst word.1.toList s with
    | none => simp [spelled]
    | some parts => simp

theorem exists_firstCut_of_firstComparison? {s : List Char} {words : List (String × Operator)}
    {condition : Condition} (found : firstComparison? s (spelled words) = some condition) :
    ∃ earlier word operator later left right, words = earlier ++ (word, operator) :: later ∧
      (∀ other ∈ earlier, ¬ other.1.toList <:+: s) ∧
      FirstCut (· = word.toList) s left word.toList right ∧
      condition = .comparison operator (String.ofList (Text.trim left))
        (String.ofList (Text.trim right)) := by
  induction words with
  | nil => cases found
  | cons word words ih =>
    rw [spelled, List.map_cons, firstComparison?] at found
    cases here : Text.splitFirst word.1.toList s with
    | some parts =>
      rw [here] at found
      exact ⟨[], word.1, word.2, words, parts.1, parts.2, rfl, by simp,
        Text.splitFirst_eq_some_iff.1 here, (Option.some.inj found).symm⟩
    | none =>
      rw [here] at found
      obtain ⟨earlier, other, operator, later, left, right, rfl, absent, cut, same⟩ := ih found
      refine ⟨word :: earlier, other, operator, later, left, right, rfl, ?_, cut, same⟩
      exact List.forall_mem_cons.2 ⟨Text.splitFirst_eq_none_iff.1 here, absent⟩

/-! ## Translations -/

/-- The words of the grammar begin and end with a blank. -/
theorem blank_of_mem_grammarWords : ∀ word ∈ grammarWords,
    word.1.toList.head? = some ' ' ∧ word.1.toList.getLast? = some ' ' := by
  decide

theorem trim_ne_nil_of_cut {Asked : List Char → Prop} {expression : String}
    {left word right : List Char} (cut : FirstCut Asked (Text.trim expression.toList) left word right)
    (blank : word.head? = some ' ') : Text.trim expression.toList ≠ [] := by
  intro nothing
  have none : left ++ word ++ right = [] := cut.whole.symm.trans nothing
  obtain ⟨rest, rfl⟩ := List.head?_eq_some_iff.1 blank
  simp at none

theorem translate_of_reads {expression : String} {meaning : Translation}
    (reads : Reads expression meaning) : translate expression = meaning := by
  cases reads with
  | blank nothing => rw [translate, nothing]; rfl
  | @comparison earlier later word operator left right words absent cut =>
    have member : (word, operator) ∈ grammarWords := by simp [words]
    have filled := trim_ne_nil_of_cut cut (blank_of_mem_grammarWords _ member).1
    have found : firstComparison? (Text.trim expression.toList) comparisonWords =
        some (.comparison operator (String.ofList (Text.trim left))
          (String.ofList (Text.trim right))) := by
      rw [comparisonWords_eq, words]
      exact firstComparison?_append absent cut
    simp only [translate, List.isEmpty_iff, filled, ↓reduceIte, found]
  | @like left word right pattern absent cut unquoted =>
    have filled := trim_ne_nil_of_cut cut (blank_of_isLikeWord cut.asked).1
    have missing := firstComparison?_eq_none.2 absent
    rw [← comparisonWords_eq] at missing
    have split := splitLike_eq_some_iff.2 ⟨word, cut⟩
    simp only [translate, List.isEmpty_iff, filled, ↓reduceIte, missing, likeCondition?, split,
      Option.map_some, unquoted_iff.1 unquoted]
  | unparsable filled absent unlike =>
    have missing := firstComparison?_eq_none.2 absent
    rw [← comparisonWords_eq] at missing
    have split := splitLike_eq_none_iff.2 unlike
    simp only [translate, List.isEmpty_iff, filled, ↓reduceIte, missing, likeCondition?, split,
      Option.map_none]

theorem reads_translate (expression : String) : Reads expression (translate expression) := by
  by_cases nothing : Text.trim expression.toList = []
  · rw [translate_of_reads (.blank nothing)]
    exact .blank nothing
  · cases found : firstComparison? (Text.trim expression.toList) (spelled grammarWords) with
    | some condition =>
      obtain ⟨earlier, word, operator, later, left, right, words, absent, cut, rfl⟩ :=
        exists_firstCut_of_firstComparison? found
      rw [translate_of_reads (.comparison words absent cut)]
      exact .comparison words absent cut
    | none =>
      have absent := firstComparison?_eq_none.1 found
      cases split : splitLike (Text.trim expression.toList) with
      | some parts =>
        obtain ⟨word, cut⟩ := splitLike_eq_some_iff.1 split
        rw [translate_of_reads (.like absent cut (unquoted_iff.2 rfl))]
        exact .like absent cut (unquoted_iff.2 rfl)
      | none =>
        have unlike := splitLike_eq_none_iff.1 split
        rw [translate_of_reads (.unparsable nothing absent unlike)]
        exact .unparsable nothing absent unlike

/-- A text means what the grammar says and nothing else. -/
theorem reads_iff {expression : String} {meaning : Translation} :
    Reads expression meaning ↔ translate expression = meaning :=
  ⟨translate_of_reads, fun same => same ▸ reads_translate expression⟩

theorem isTrimmed_comparison {expression property literal : String} {operator : Operator}
    (reads : Reads expression (.condition (.comparison operator property literal))) :
    isTrimmed property.toList = true ∧ isTrimmed literal.toList = true := by
  cases reads with
  | @comparison earlier later word _ left right words absent cut =>
    have blanks := blank_of_mem_grammarWords (word, operator) (by simp [words])
    have trimmed := Text.isTrimmed_trim (trim_ne_nil_of_cut cut blanks.1)
    rw [String.toList_ofList, String.toList_ofList]
    exact Text.isTrimmed_parts trimmed cut.whole blanks

theorem isTrimmed_like {expression property pattern : String}
    (reads : Reads expression (.condition (.like property pattern))) :
    isTrimmed property.toList = true := by
  cases reads with
  | like absent cut unquoted =>
    have blanks := blank_of_isLikeWord cut.asked
    have trimmed := Text.isTrimmed_trim (trim_ne_nil_of_cut cut blanks.1)
    rw [String.toList_ofList]
    exact (Text.isTrimmed_parts trimmed cut.whole blanks).1

/-- Typed filters are understood just as the grammar says, so nothing of a text is lost but the
    white space around its parts and the quotes around its pattern. Operands are never empty and
    neither begin nor end with white space. Where the word of a pattern match is found in the
    lower-case copy of a text, the text can be cut in front of the word and behind it, whatever
    characters it holds, and those are the parts that count. -/
theorem translate_grammar :
    (∀ expression meaning, Reads expression meaning ↔ translate expression = meaning) ∧
      (∀ expression operator property literal,
        translate expression = .condition (.comparison operator property literal) →
        isTrimmed property.toList = true ∧ isTrimmed literal.toList = true) ∧
      (∀ expression property pattern,
        translate expression = .condition (.like property pattern) →
        isTrimmed property.toList = true) ∧
      (∀ s, Text.byteIndex? likeWord (lowerCase s) = none ↔ splitLike s = none) ∧
      ∀ s n, Text.byteIndex? likeWord (lowerCase s) = some n →
        ∃ left word right, splitLike s = some (left, right) ∧ IsLikeWord word ∧
          Text.cutAtByte n s = some (left, word ++ right) ∧
          Text.cutAtByte (n + 6) s = some (left ++ word, right) := by
  refine ⟨fun expression meaning => reads_iff, ?_, ?_, fun s => byteIndex?_eq_none_iff,
    fun s n => cutAtByte_of_byteIndex?⟩
  · intro expression operator property literal same
    exact isTrimmed_comparison (reads_iff.2 same)
  · intro expression property pattern same
    exact isTrimmed_like (reads_iff.2 same)

/-- A pattern match among characters of two, three and four bytes, and a comparison whose word stands
    behind one that counts less. -/
theorem translate_grammar_mixed :
    Reads "\u00a0é LıKE LiKe ''𝄞 likE \x22'\n" (.condition (.like "é LıKE" "'𝄞 likE \x22")) ∧
      isTrimmed "é LıKE".toList = true ∧
      Reads " a > b = c " (.condition (.comparison .equalTo "a > b" "c")) ∧
      isTrimmed "a > b".toList = true ∧ isTrimmed "c".toList = true ∧
      ∃ left word right, splitLike "é LıKE LiKe '𝄞".toList = some (left, right) ∧
        IsLikeWord word ∧ Text.cutAtByte 8 "é LıKE LiKe '𝄞".toList = some (left, word ++ right) ∧
        Text.cutAtByte 14 "é LıKE LiKe '𝄞".toList = some (left ++ word, right) := by
  obtain ⟨reads, comparison, like, -, bytes⟩ := translate_grammar
  have matched : translate "\u00a0é LıKE LiKe ''𝄞 likE \x22'\n" =
      .condition (.like "é LıKE" "'𝄞 likE \x22") := by decide
  have compared : translate " a > b = c " = .condition (.comparison .equalTo "a > b" "c") := by
    decide
  obtain ⟨property, literal⟩ := comparison _ _ _ _ compared
  exact ⟨(reads _ _).2 matched, like _ _ _ matched, (reads _ _).2 compared, property, literal,
    bytes _ 8 (by decide)⟩

end MapStyle.Filter
