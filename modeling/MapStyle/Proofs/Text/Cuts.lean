import MapStyle.Text.Blank
import MapStyle.Text.Split
import Mathlib.Data.String.Basic

/-!
# Where a text is cut

A cut is the first place in a text where one of the words asked for stands. `splitFirst` finds the
cut at one word, and only that. What is left of a text that is trimmed begins and ends with
something other than white space, and so does each part of such a text that is cut at a word between
blanks, once the part is trimmed itself.
-/

namespace MapStyle.Text

/-! ## The first place of a word -/

/-- The text is cut at a word that is asked for, and none stands further to the left. -/
structure FirstCut (Asked : List Char → Prop) (s left word right : List Char) : Prop where
  asked : Asked word
  whole : s = left ++ word ++ right
  first : ∀ left' word' right', Asked word' → s = left' ++ word' ++ right' →
    left.length ≤ left'.length

/-- There is at most one cut at words of the same length. -/
theorem FirstCut.unique {Asked : List Char → Prop} {s left word right left' word' right' : List Char}
    (size : ∀ w w', Asked w → Asked w' → w.length = w'.length)
    (cut : FirstCut Asked s left word right) (cut' : FirstCut Asked s left' word' right') :
    left = left' ∧ word = word' ∧ right = right' := by
  have lengths : left.length = left'.length :=
    Nat.le_antisymm (cut.first _ _ _ cut'.asked cut'.whole) (cut'.first _ _ _ cut.asked cut.whole)
  have same : left ++ (word ++ right) = left' ++ (word' ++ right') := by
    rw [← List.append_assoc, ← List.append_assoc, ← cut.whole, ← cut'.whole]
  obtain ⟨lefts, rest⟩ := List.append_inj same lengths
  obtain ⟨words, rights⟩ := List.append_inj rest (size _ _ cut.asked cut'.asked)
  exact ⟨lefts, words, rights⟩

theorem isPrefixOf_append (word s : List Char) : word.isPrefixOf (word ++ s) = true :=
  List.isPrefixOf_iff_prefix.2 (List.prefix_append word s)

theorem splitFirst_eq_none_iff {word s : List Char} : splitFirst word s = none ↔ ¬ word <:+: s := by
  induction s with
  | nil => simp [splitFirst]
  | cons c rest ih =>
    rw [splitFirst, List.infix_cons_iff]
    by_cases here : word.isPrefixOf (c :: rest) = true
    · simp [here, List.isPrefixOf_iff_prefix.1 here]
    · have notHere : ¬ word <+: c :: rest := fun h => here (List.isPrefixOf_iff_prefix.2 h)
      simp [here, notHere, ih]

theorem length_le_of_splitFirst {word s before behind left right : List Char}
    (found : splitFirst word s = some (before, behind)) (whole : s = left ++ word ++ right) :
    before.length ≤ left.length := by
  induction s generalizing before behind left with
  | nil =>
    rw [splitFirst] at found
    split at found
    · obtain ⟨rfl, -⟩ := Prod.mk.inj (Option.some.inj found)
      exact Nat.zero_le _
    · cases found
  | cons c rest ih =>
    rw [splitFirst] at found
    split at found
    · obtain ⟨rfl, -⟩ := Prod.mk.inj (Option.some.inj found)
      exact Nat.zero_le _
    · next notHere =>
      obtain ⟨⟨inner, last⟩, later, same⟩ := Option.map_eq_some_iff.1 found
      obtain ⟨rfl, -⟩ := Prod.mk.inj same
      cases left with
      | nil =>
        rw [List.nil_append] at whole
        rw [whole] at notHere
        exact absurd (isPrefixOf_append word right) notHere
      | cons d left =>
        have tail : rest = left ++ word ++ right := (List.cons.inj whole).2
        exact Nat.succ_le_succ (ih later tail)

/-- A text is split exactly where it is cut at the word. -/
theorem splitFirst_eq_some_iff {word s left right : List Char} :
    splitFirst word s = some (left, right) ↔ FirstCut (· = word) s left word right := by
  have sound : ∀ {before behind}, splitFirst word s = some (before, behind) →
      FirstCut (· = word) s before word behind := by
    intro before behind found
    refine ⟨rfl, eq_append_of_splitFirst found, ?_⟩
    rintro left' word' right' rfl whole
    exact length_le_of_splitFirst found whole
  refine ⟨sound, ?_⟩
  intro cut
  cases found : splitFirst word s with
  | none =>
    have inside : word <:+: s := ⟨left, right, cut.whole.symm⟩
    exact absurd inside (splitFirst_eq_none_iff.1 found)
  | some parts =>
    have size : ∀ w w' : List Char, w = word → w' = word → w.length = w'.length := by
      rintro w w' rfl rfl
      rfl
    obtain ⟨lefts, -, rights⟩ := (sound found).unique size cut
    rw [← lefts, ← rights]

/-! ## Trimmed text -/

/-- Whether a text begins and ends with something other than white space. -/
def isTrimmed (s : List Char) : Bool :=
  s.head?.any (!isWhiteSpace ·) && s.getLast?.any (!isWhiteSpace ·)

theorem head?_dropWhile {p : Char → Bool} {s : List Char} {c : Char}
    (first : (s.dropWhile p).head? = some c) : p c = false := by
  have stop := List.head?_dropWhile_not p s
  rwa [first] at stop

theorem trimEnd_append (s : List Char) : ∃ blanks, s = trimEnd s ++ blanks := by
  obtain ⟨blanks, whole⟩ := List.dropWhile_suffix (l := s.reverse) isWhiteSpace
  refine ⟨blanks.reverse, ?_⟩
  rw [trimEnd, ← List.reverse_append, whole, List.reverse_reverse]

/-- Trimming leaves nothing, or a text without white space at its ends. -/
theorem isTrimmed_trim {s : List Char} (filled : trim s ≠ []) : isTrimmed (trim s) = true := by
  obtain ⟨c, rest, begun⟩ := List.exists_cons_of_ne_nil filled
  obtain ⟨blanks, whole⟩ := trimEnd_append (trimStart s)
  have first : isWhiteSpace c = false := by
    apply head?_dropWhile (s := s)
    have start : trimStart s = c :: rest ++ blanks := by rw [← begun]; exact whole
    exact congrArg List.head? start
  obtain ⟨d, last⟩ := Option.isSome_iff_exists.1 (List.getLast?_isSome.2 filled)
  have final : isWhiteSpace d = false := by
    apply head?_dropWhile (s := (trimStart s).reverse)
    rw [← List.getLast?_reverse]
    exact last
  rw [isTrimmed, last, begun]
  simp [first, final]

theorem isTrimmed_trim_of_mem {s : List Char} {c : Char} (inside : c ∈ s)
    (dark : isWhiteSpace c = false) : isTrimmed (trim s) = true := by
  apply isTrimmed_trim
  intro nothing
  have blank := List.all_eq_true.1 ((trim_eq_nil_iff s).1 nothing) c inside
  rw [dark] at blank
  cases blank

/-- What stands before a blank in a trimmed text holds more than white space. -/
theorem isTrimmed_left {s left right : List Char} {c : Char} (trimmed : isTrimmed s = true)
    (blank : isWhiteSpace c = true) (whole : s = left ++ c :: right) :
    isTrimmed (trim left) = true := by
  have begun := (Bool.and_eq_true_iff.1 trimmed).1
  cases left with
  | nil => simp [whole, blank] at begun
  | cons d left =>
    have dark : isWhiteSpace d = false := by simpa [whole] using begun
    exact isTrimmed_trim_of_mem List.mem_cons_self dark

/-- What stands behind a blank in a trimmed text holds more than white space. -/
theorem isTrimmed_right {s left right : List Char} {c : Char} (trimmed : isTrimmed s = true)
    (blank : isWhiteSpace c = true) (whole : s = left ++ c :: right) :
    isTrimmed (trim right) = true := by
  have ended := (Bool.and_eq_true_iff.1 trimmed).2
  rcases List.eq_nil_or_concat right with rfl | ⟨front, d, rfl⟩
  · simp [whole, blank] at ended
  · have last : s.getLast? = some d := by
      rw [whole, List.concat_eq_append, ← List.cons_append, ← List.append_assoc,
        List.getLast?_concat]
    have dark : isWhiteSpace d = false := by simpa [last] using ended
    exact isTrimmed_trim_of_mem (by simp) dark

/-- Where a trimmed text is cut at a word between blanks, both parts hold more than white space. -/
theorem isTrimmed_parts {s left word right : List Char} (trimmed : isTrimmed s = true)
    (whole : s = left ++ word ++ right)
    (blanks : word.head? = some ' ' ∧ word.getLast? = some ' ') :
    isTrimmed (trim left) = true ∧ isTrimmed (trim right) = true := by
  obtain ⟨first, last⟩ := blanks
  obtain ⟨tail, rfl⟩ := List.head?_eq_some_iff.1 first
  obtain ⟨front, same⟩ := List.getLast?_eq_some_iff.1 last
  have begun : s = left ++ ' ' :: (tail ++ right) := by
    rw [whole, List.append_assoc, List.cons_append]
  have ended : s = left ++ front ++ ' ' :: right := by
    rw [whole, same]
    simp
  exact ⟨isTrimmed_left trimmed rfl begun, isTrimmed_right trimmed rfl ended⟩

/-! ## Cuts by bytes -/

/-- The number of bytes that stand before the first place of a word. -/
def byteIndex? (word s : List Char) : Option Nat :=
  (splitFirst word s).map fun parts => String.utf8Len parts.1

/-- The text cut `n` bytes behind its beginning; nothing if that is inside a character. -/
def cutAtByte : Nat → List Char → Option (List Char × List Char)
  | 0, s => some ([], s)
  | _ + 1, [] => none
  | n + 1, c :: rest =>
    if c.utf8Size ≤ n + 1 then
      (cutAtByte (n + 1 - c.utf8Size) rest).map fun (before, behind) => (c :: before, behind)
    else none

/-- A cut behind whole characters hits no character. -/
theorem cutAtByte_append (left right : List Char) :
    cutAtByte (String.utf8Len left) (left ++ right) = some (left, right) := by
  induction left with
  | nil => exact cutAtByte.eq_1 right
  | cons c left ih =>
    obtain ⟨n, size⟩ : ∃ n, String.utf8Len (c :: left) = n + 1 := by
      have positive := c.utf8Size_pos
      rw [String.utf8Len_cons]
      exact ⟨String.utf8Len left + c.utf8Size - 1, by omega⟩
    have rest : n + 1 - c.utf8Size = String.utf8Len left := by
      rw [← size, String.utf8Len_cons]
      omega
    have fits : c.utf8Size ≤ n + 1 := by
      rw [← size, String.utf8Len_cons]
      omega
    rw [size, List.cons_append, cutAtByte, if_pos fits, rest, ih]
    rfl

end MapStyle.Text
