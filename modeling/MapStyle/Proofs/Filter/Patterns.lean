import MapStyle.Filter.Translation
import MapStyle.Proofs.Text.Cuts

/-!
# Pattern words and quotes

The word of a pattern match counts in any letter case. It is looked for in a copy of the text in
lower case, and the text is cut where the copy has it: characters and bytes stand at the same places
in both, because only ASCII letters change and each takes one byte in either case. Of the pattern
behind the word, a quote at each end is taken off.
-/

namespace MapStyle.Filter

open Text (FirstCut)

/-! ## Letter case -/

theorem toNat_toLower (c : Char) :
    c.toLower.toNat = if 65 ≤ c.toNat ∧ c.toNat ≤ 90 then c.toNat + 32 else c.toNat := by
  have bounds : (c.val ≥ 'A'.val ∧ c.val ≤ 'Z'.val) ↔ (65 ≤ c.toNat ∧ c.toNat ≤ 90) := Iff.rfl
  unfold Char.toLower
  split
  · next upper =>
    rw [if_pos (bounds.1 upper)]
    have small := (bounds.1 upper).2
    show (c.val + 32).toNat = c.val.toNat + 32
    have value : c.val.toNat ≤ 90 := small
    rw [UInt32.toNat_add]
    exact Nat.mod_eq_of_lt (by simp; omega)
  · next other => rw [if_neg (mt bounds.2 other)]

/-- A lower-case letter comes of itself and of its upper-case letter, and of nothing else. -/
theorem toLower_eq_iff {c d u : Char} (lower : 97 ≤ d.toNat ∧ d.toNat ≤ 122)
    (upper : u.toNat + 32 = d.toNat) : c.toLower = d ↔ c = d ∨ c = u := by
  rw [← Char.toNat_inj, ← Char.toNat_inj, ← Char.toNat_inj, toNat_toLower]
  split <;> omega

theorem toLower_eq_blank_iff {c : Char} : c.toLower = ' ' ↔ c = ' ' := by
  have blank : ' '.toNat = 32 := rfl
  rw [← Char.toNat_inj, ← Char.toNat_inj, toNat_toLower, blank]
  split <;> omega

theorem utf8Size_toLower (c : Char) : c.toLower.utf8Size = c.utf8Size := by
  have small : ∀ d : Char, d.toNat ≤ 127 → d.utf8Size = 1 := fun d le =>
    Char.utf8Size_eq_one_iff.2 (UInt32.le_iff_toNat_le.2 le)
  by_cases upper : 65 ≤ c.toNat ∧ c.toNat ≤ 90
  · have value := toNat_toLower c
    rw [if_pos upper] at value
    rw [small c (by omega), small c.toLower (by omega)]
  · have same : c.toLower = c := by
      rw [← Char.toNat_inj, toNat_toLower, if_neg upper]
    rw [same]

/-- Lower-case letters take as many bytes as the letters they come of. -/
theorem utf8Len_lowerCase (s : List Char) : String.utf8Len (lowerCase s) = String.utf8Len s := by
  induction s with
  | nil => rfl
  | cons c rest ih =>
    rw [String.utf8Len_cons, ← ih, ← utf8Size_toLower c]
    rfl

/-! ## Pattern words -/

/-- The words of pattern matches: `like` in any letter case between two blanks. -/
def IsLikeWord (word : List Char) : Prop :=
  ∃ l i k e, word = [' ', l, i, k, e, ' '] ∧ (l = 'l' ∨ l = 'L') ∧ (i = 'i' ∨ i = 'I') ∧
    (k = 'k' ∨ k = 'K') ∧ (e = 'e' ∨ e = 'E')

theorem isLikeWord_iff {word : List Char} : IsLikeWord word ↔ lowerCase word = likeWord := by
  constructor
  · rintro ⟨l, i, k, e, rfl, hl, hi, hk, he⟩
    simp only [lowerCase, likeWord, List.map_cons, List.map_nil, List.cons.injEq, and_true]
    refine ⟨rfl, ?_, ?_, ?_, ?_, rfl⟩
    · exact (toLower_eq_iff (by decide) rfl).2 hl
    · exact (toLower_eq_iff (by decide) rfl).2 hi
    · exact (toLower_eq_iff (by decide) rfl).2 hk
    · exact (toLower_eq_iff (by decide) rfl).2 he
  · intro same
    obtain ⟨a, l, i, k, e, b, rfl⟩ : ∃ a l i k e b, word = [a, l, i, k, e, b] := by
      have size := congrArg List.length same
      simp only [lowerCase, likeWord, List.length_map, List.length_cons, List.length_nil] at size
      match word, size with
      | [a, l, i, k, e, b], _ => exact ⟨a, l, i, k, e, b, rfl⟩
    simp only [lowerCase, likeWord, List.map_cons, List.map_nil, List.cons.injEq, and_true] at same
    obtain ⟨first, hl, hi, hk, he, last⟩ := same
    obtain rfl := toLower_eq_blank_iff.1 first
    obtain rfl := toLower_eq_blank_iff.1 last
    exact ⟨l, i, k, e, rfl, (toLower_eq_iff (by decide) rfl).1 hl,
      (toLower_eq_iff (by decide) rfl).1 hi, (toLower_eq_iff (by decide) rfl).1 hk,
      (toLower_eq_iff (by decide) rfl).1 he⟩

theorem length_of_isLikeWord {word : List Char} (like : IsLikeWord word) : word.length = 6 := by
  obtain ⟨l, i, k, e, rfl, -⟩ := like
  rfl

theorem blank_of_isLikeWord {word : List Char} (like : IsLikeWord word) :
    word.head? = some ' ' ∧ word.getLast? = some ' ' := by
  obtain ⟨l, i, k, e, rfl, -⟩ := like
  exact ⟨rfl, rfl⟩

theorem lowerCase_append (s t : List Char) : lowerCase (s ++ t) = lowerCase s ++ lowerCase t :=
  List.map_append

/-- Where the word in lower case stands in the copy, a pattern word stands in the text. -/
theorem exists_word_of_lowerCase {s left right : List Char}
    (whole : lowerCase s = left ++ likeWord ++ right) :
    ∃ left' word' right', IsLikeWord word' ∧ s = left' ++ word' ++ right' ∧
      lowerCase left' = left ∧ lowerCase right' = right := by
  obtain ⟨front, right', rfl, fronts, rights⟩ := List.map_eq_append_iff.1 whole
  obtain ⟨left', word', rfl, lefts, words⟩ := List.map_eq_append_iff.1 fronts
  exact ⟨left', word', right', isLikeWord_iff.2 words, rfl, lefts, rights⟩

/-- The copy is cut at the same place as the text. -/
theorem FirstCut.lowerCase {s left word right : List Char}
    (cut : FirstCut IsLikeWord s left word right) :
    FirstCut (· = likeWord) (lowerCase s) (lowerCase left) likeWord (lowerCase right) := by
  refine ⟨rfl, ?_, ?_⟩
  · rw [cut.whole, lowerCase_append, lowerCase_append, isLikeWord_iff.1 cut.asked]
  · rintro left' word' right' rfl whole
    obtain ⟨before, spelling, behind, like, parts, rfl, -⟩ := exists_word_of_lowerCase whole
    have le := cut.first before spelling behind like parts
    simpa [Filter.lowerCase] using le

theorem firstCut_of_lowerCase {s before behind : List Char}
    (cut : FirstCut (· = likeWord) (lowerCase s) before likeWord behind) :
    ∃ left word right, FirstCut IsLikeWord s left word right ∧ lowerCase left = before := by
  obtain ⟨left, word, right, like, parts, rfl, -⟩ := exists_word_of_lowerCase cut.whole
  refine ⟨left, word, right, ⟨like, parts, ?_⟩, rfl⟩
  intro left' word' right' like' parts'
  have whole : lowerCase s = lowerCase left' ++ likeWord ++ lowerCase right' := by
    rw [parts', lowerCase_append, lowerCase_append, isLikeWord_iff.1 like']
  have le := cut.first _ _ _ rfl whole
  simpa [lowerCase] using le

/-- A text is split exactly where it is cut at a pattern word. -/
theorem splitLike_eq_some_iff {s left right : List Char} :
    splitLike s = some (left, right) ↔ ∃ word, FirstCut IsLikeWord s left word right := by
  have split : ∀ {left word right}, FirstCut IsLikeWord s left word right →
      splitLike s = some (left, right) := by
    intro left word right cut
    have found := Text.splitFirst_eq_some_iff.2 (FirstCut.lowerCase cut)
    have six := length_of_isLikeWord cut.asked
    have size : (lowerCase left).length = left.length := List.length_map _
    have front : s.take left.length = left := by
      rw [cut.whole, List.append_assoc, List.take_left]
    have back : s.drop (left.length + likeWord.length) = right := by
      have sum : left.length + likeWord.length = (left ++ word).length := by
        rw [List.length_append, six]
        rfl
      rw [cut.whole, sum, List.drop_left]
    simp only [splitLike, found, Option.map_some, size, front, back]
  refine ⟨?_, fun ⟨_, cut⟩ => split cut⟩
  intro found
  obtain ⟨⟨before, behind⟩, copied, -⟩ := Option.map_eq_some_iff.1 found
  obtain ⟨left', word, right', cut, -⟩ :=
    firstCut_of_lowerCase (Text.splitFirst_eq_some_iff.1 copied)
  obtain ⟨rfl, rfl⟩ := Prod.mk.inj (Option.some.inj ((split cut).symm.trans found))
  exact ⟨word, cut⟩

theorem splitLike_eq_none_iff {s : List Char} :
    splitLike s = none ↔ ∀ word, IsLikeWord word → ¬ word <:+: s := by
  rw [splitLike, Option.map_eq_none_iff, Text.splitFirst_eq_none_iff]
  constructor
  · rintro missing word like ⟨left, right, whole⟩
    apply missing
    refine ⟨lowerCase left, lowerCase right, ?_⟩
    rw [← whole, lowerCase_append, lowerCase_append, isLikeWord_iff.1 like]
  · rintro missing ⟨left, right, whole⟩
    obtain ⟨left', word', right', like, rfl, -⟩ := exists_word_of_lowerCase whole.symm
    exact missing word' like ⟨left', right', rfl⟩

theorem byteIndex?_eq_none_iff {s : List Char} :
    Text.byteIndex? likeWord (lowerCase s) = none ↔ splitLike s = none := by
  rw [Text.byteIndex?, splitLike, Option.map_eq_none_iff, Option.map_eq_none_iff]

/-- The bytes counted in the copy lead to the beginning of a pattern word in the text, and six more
    to its end. -/
theorem cutAtByte_of_byteIndex? {s : List Char} {n : Nat}
    (found : Text.byteIndex? likeWord (lowerCase s) = some n) :
    ∃ left word right, splitLike s = some (left, right) ∧ IsLikeWord word ∧
      Text.cutAtByte n s = some (left, word ++ right) ∧
      Text.cutAtByte (n + 6) s = some (left ++ word, right) := by
  obtain ⟨⟨before, behind⟩, copied, rfl⟩ := Option.map_eq_some_iff.1 found
  obtain ⟨left, word, right, cut, rfl⟩ :=
    firstCut_of_lowerCase (Text.splitFirst_eq_some_iff.1 copied)
  have six : String.utf8Len word = 6 := by
    rw [← utf8Len_lowerCase, isLikeWord_iff.1 cut.asked]
    rfl
  have start := Text.cutAtByte_append left (word ++ right)
  have stop := Text.cutAtByte_append (left ++ word) right
  rw [← List.append_assoc, ← cut.whole] at start
  rw [String.utf8Len_append, six, ← cut.whole] at stop
  refine ⟨left, word, right, splitLike_eq_some_iff.2 ⟨word, cut⟩, cut.asked, ?_, ?_⟩
  · rw [utf8Len_lowerCase, start]
  · rw [utf8Len_lowerCase, stop]

/-! ## Quotes -/

/-- No quote, or a single one. -/
def IsQuotation (mark : List Char) : Prop := mark = [] ∨ mark = ['\x27'] ∨ mark = ['\x22']

/-- The pattern is what is left of a text once a quote is taken off each end that has one. -/
def Unquoted (s pattern : List Char) : Prop :=
  ∃ opening closing, IsQuotation opening ∧ IsQuotation closing ∧ s = opening ++ pattern ++ closing ∧
    (opening = [] → s.head?.any isQuote = false) ∧
    (closing = [] → pattern.getLast?.any isQuote = false)

theorem isQuotation_singleton {c : Char} : IsQuotation [c] ↔ isQuote c = true := by
  simp [IsQuotation, isQuote]

theorem isQuotation_reverse {mark : List Char} : IsQuotation mark.reverse ↔ IsQuotation mark := by
  simp [IsQuotation, List.reverse_eq_iff]

theorem isQuotation_cases {mark : List Char} (quotation : IsQuotation mark) :
    mark = [] ∨ ∃ c, mark = [c] ∧ isQuote c = true := by
  rcases quotation with rfl | rfl | rfl
  · exact .inl rfl
  · exact .inr ⟨_, rfl, rfl⟩
  · exact .inr ⟨_, rfl, rfl⟩

/-- What is left without a first quote is the text behind it. -/
theorem dropFirstQuote_eq_iff {s rest : List Char} :
    dropFirstQuote s = rest ↔ ∃ opening, IsQuotation opening ∧ s = opening ++ rest ∧
      (opening = [] → s.head?.any isQuote = false) := by
  cases s with
  | nil =>
    constructor
    · rintro rfl
      exact ⟨[], .inl rfl, rfl, fun _ => rfl⟩
    · rintro ⟨opening, -, whole, -⟩
      exact (List.append_eq_nil_iff.1 whole.symm).2.symm
  | cons c tail =>
    rw [dropFirstQuote]
    by_cases quote : isQuote c = true
    · rw [if_pos quote]
      constructor
      · rintro rfl
        exact ⟨[c], isQuotation_singleton.2 quote, rfl, fun none => by cases none⟩
      · rintro ⟨opening, quotation, whole, unquoted⟩
        rcases isQuotation_cases quotation with rfl | ⟨d, rfl, -⟩
        · simp [quote] at unquoted
        · exact (List.cons.inj whole).2
    · rw [if_neg quote]
      constructor
      · rintro rfl
        exact ⟨[], .inl rfl, rfl, fun _ => by simp [quote]⟩
      · rintro ⟨opening, quotation, whole, -⟩
        rcases isQuotation_cases quotation with rfl | ⟨d, rfl, isQuote⟩
        · exact whole
        · obtain rfl := (List.cons.inj whole).1
          exact absurd isQuote quote

theorem dropLastQuote_eq_iff {s rest : List Char} :
    dropLastQuote s = rest ↔ ∃ closing, IsQuotation closing ∧ s = rest ++ closing ∧
      (closing = [] → s.getLast?.any isQuote = false) := by
  rw [dropLastQuote, List.reverse_eq_iff, dropFirstQuote_eq_iff]
  constructor
  · rintro ⟨opening, quotation, whole, unquoted⟩
    refine ⟨opening.reverse, isQuotation_reverse.2 quotation, ?_, ?_⟩
    · rw [← List.reverse_inj, whole, List.reverse_append, List.reverse_reverse]
    · intro none
      rw [← List.head?_reverse]
      exact unquoted (List.reverse_eq_nil_iff.1 none)
  · rintro ⟨closing, quotation, rfl, unquoted⟩
    refine ⟨closing.reverse, isQuotation_reverse.2 quotation, List.reverse_append, ?_⟩
    intro none
    rw [List.head?_reverse]
    exact unquoted (List.reverse_eq_nil_iff.1 none)

/-- Taking the quotes off leaves the pattern, and nothing else is one. -/
theorem unquoted_iff {s pattern : List Char} : Unquoted s pattern ↔ stripQuotes s = pattern := by
  rw [stripQuotes, dropLastQuote_eq_iff]
  constructor
  · rintro ⟨opening, closing, left, right, whole, first, last⟩
    have rest : dropFirstQuote s = pattern ++ closing :=
      dropFirstQuote_eq_iff.2 ⟨opening, left, by rw [whole, List.append_assoc], first⟩
    refine ⟨closing, right, rest, ?_⟩
    rintro rfl
    rw [rest, List.append_nil]
    exact last rfl
  · rintro ⟨closing, right, rest, last⟩
    obtain ⟨opening, left, whole, first⟩ := dropFirstQuote_eq_iff.1 rest
    refine ⟨opening, closing, left, right, by rw [whole, List.append_assoc], first, ?_⟩
    rintro rfl
    rw [rest, List.append_nil] at last
    exact last rfl

end MapStyle.Filter
