import MapStyle.Proofs.Xml.ReadBack

/-!
# Comments as they are written

The passes that keep the hyphens of a comment apart come to an end after two at most, with one space
between any two hyphens that stood side by side. So nothing in a comment can be taken for its end,
whatever its text is: two hyphens in a row are found in its delimiters and nowhere else. Main
statement: `comment_exact`.
-/

namespace MapStyle.Xml

/-! ## Passes -/

theorem adjacentHyphens_eq_zero_iff {s : List Char} :
    adjacentHyphens s = 0 ↔ ¬ ['-', '-'] <:+: s := by
  induction s with
  | nil => simp [adjacentHyphens]
  | cons c rest ih =>
    have pair : ['-', '-'] <+: c :: rest ↔ c = '-' ∧ rest.head? = some '-' := by
      cases rest <;> simp [List.cons_prefix_cons, eq_comm]
    rw [adjacentHyphens_cons, List.infix_cons_iff, pair, not_or, ← ih]
    split <;> simp_all

/-- The passes over a text, counted: there is another one as long as two hyphens stand side by side. -/
inductive Passes : Nat → List Char → List Char → Prop
  | done {s : List Char} (apart : ¬ ['-', '-'] <:+: s) : Passes 0 s s
  | pass {n : Nat} {s t : List Char} (paired : ['-', '-'] <:+: s)
      (rest : Passes n (spaceHyphenPairs s) t) : Passes (n + 1) s t

/-- Passes that have come to an end have spaced the text. -/
theorem Passes.eq_spaced {n : Nat} {s t : List Char} (passes : Passes n s t) : t = spaced s := by
  induction passes with
  | done apart => exact (spaced_eq_self (adjacentHyphens_eq_zero_iff.2 apart)).symm
  | pass paired rest ih => rw [ih, spaced_spaceHyphenPairs]

/-- They come to an end, because each pass takes adjacent hyphens away. -/
theorem exists_passes (s : List Char) : ∃ n, Passes n s (separateHyphens s) := by
  fun_induction separateHyphens s with
  | case1 s none => exact ⟨0, .done (adjacentHyphens_eq_zero_iff.1 none)⟩
  | case2 s some ih =>
    obtain ⟨n, rest⟩ := ih
    exact ⟨n + 1, .pass (Classical.not_not.1 fun apart => some (adjacentHyphens_eq_zero_iff.2 apart)) rest⟩

theorem spaceHyphenPairs_pair (s : List Char) :
    spaceHyphenPairs ('-' :: '-' :: s) = '-' :: ' ' :: '-' :: spaceHyphenPairs s := rfl

theorem spaceHyphenPairs_cons {c : Char} {s : List Char} (single : ¬ (c = '-' ∧ s.head? = some '-')) :
    spaceHyphenPairs (c :: s) = c :: spaceHyphenPairs s := by
  apply spaceHyphenPairs.eq_2
  rintro rest rfl rfl
  exact single ⟨rfl, rfl⟩

theorem adjacentHyphens_single {c : Char} {s : List Char} (single : ¬ (c = '-' ∧ s.head? = some '-')) :
    adjacentHyphens (c :: s) = adjacentHyphens s := by
  rw [adjacentHyphens_cons, if_neg single, Nat.add_zero]

theorem adjacentHyphens_blank (s : List Char) :
    adjacentHyphens ('-' :: ' ' :: s) = adjacentHyphens s := by
  rw [adjacentHyphens_single (by simp), adjacentHyphens_single (by simp)]

/-- A second pass leaves no two hyphens side by side, not even if a hyphen comes in front of what the
    first pass left. -/
theorem adjacentHyphens_second_pass (s : List Char) :
    adjacentHyphens (spaceHyphenPairs (spaceHyphenPairs s)) = 0 ∧
      adjacentHyphens (spaceHyphenPairs ('-' :: spaceHyphenPairs s)) = 0 := by
  fun_induction spaceHyphenPairs s with
  | case1 rest ih =>
    have blank : ∀ t, spaceHyphenPairs (' ' :: t) = ' ' :: spaceHyphenPairs t := fun t =>
      spaceHyphenPairs_cons (by simp)
    refine ⟨?_, ?_⟩
    · rw [spaceHyphenPairs_cons (by simp), blank, adjacentHyphens_blank, ih.2]
    · rw [spaceHyphenPairs_pair, blank, adjacentHyphens_blank, adjacentHyphens_blank, ih.2]
  | case2 c rest alone ih =>
    have single : ¬ (c = '-' ∧ rest.head? = some '-') := by
      rintro ⟨hc, hd⟩
      obtain ⟨tail, rfl⟩ := List.head?_eq_some_iff.1 hd
      exact alone tail hc rfl
    have once : ¬ (c = '-' ∧ (spaceHyphenPairs rest).head? = some '-') := by
      rwa [head?_spaceHyphenPairs]
    have twice : ¬ (c = '-' ∧ (spaceHyphenPairs (spaceHyphenPairs rest)).head? = some '-') := by
      rwa [head?_spaceHyphenPairs]
    refine ⟨?_, ?_⟩
    · rw [spaceHyphenPairs_cons once, adjacentHyphens_single twice, ih.1]
    · by_cases hyphen : c = '-'
      · subst hyphen
        rw [spaceHyphenPairs_pair, adjacentHyphens_blank, adjacentHyphens_single twice, ih.1]
      · rw [spaceHyphenPairs_cons (by simp [hyphen]), spaceHyphenPairs_cons once,
          adjacentHyphens_single (by simp [hyphen]), adjacentHyphens_single twice, ih.1]
  | case3 => exact ⟨rfl, rfl⟩

/-- Two passes are enough. -/
theorem Passes.le_two {n : Nat} {s t : List Char} (passes : Passes n s t) : n ≤ 2 := by
  cases passes with
  | done => omega
  | pass _ rest =>
    cases rest with
    | done => omega
    | pass _ rest =>
      cases rest with
      | done => omega
      | pass paired =>
        exact absurd paired (adjacentHyphens_eq_zero_iff.1 (adjacentHyphens_second_pass s).1)

/-- Passes come to an end with the spaced text, and in no other way. -/
theorem passes_iff {s t : List Char} : (∃ n, Passes n s t) ↔ t = spaced s := by
  constructor
  · rintro ⟨n, passes⟩
    exact passes.eq_spaced
  · rintro rfl
    rw [← separateHyphens_eq_spaced]
    exact exists_passes s

/-! ## Delimiters -/

/-- Behind a text without a pair of hyphens, the end of a comment is the first place where one
    stands, and the only one. -/
theorem append_close_eq_iff {s before behind : List Char} (apart : adjacentHyphens s = 0) :
    s ++ " -->".toList = before ++ ['-', '-'] ++ behind ↔
      before = s ++ [' '] ∧ behind = ['>'] := by
  constructor
  · intro whole
    induction s generalizing before with
    | nil =>
      rcases before with - | ⟨c, - | ⟨d, - | ⟨e, before⟩⟩⟩
      · simp at whole
      · obtain ⟨rfl, rfl⟩ : ' ' = c ∧ ['>'] = behind := by simpa using whole
        exact ⟨rfl, rfl⟩
      · simp at whole
      · have size := congrArg List.length whole
        simp at size
        omega
    | cons c s ih =>
      rw [adjacentHyphens_cons] at apart
      cases before with
      | nil =>
        cases s with
        | nil => simp at whole
        | cons d s =>
          obtain ⟨rfl, rfl, -⟩ : c = '-' ∧ d = '-' ∧ _ := by simpa using whole
          simp at apart
      | cons d before =>
        obtain ⟨rfl, rest⟩ := List.cons.inj whole
        obtain ⟨rfl, rfl⟩ := ih (by omega) rest
        exact ⟨rfl, rfl⟩
  · rintro ⟨rfl, rfl⟩
    simp

/-- Two hyphens in a row stand in the delimiters of a comment, and nowhere else. -/
theorem commentLine_eq_pair_iff {text : String} {before behind : List Char} :
    commentLine text = before ++ ['-', '-'] ++ behind ↔
      before = "<!".toList ∧ behind = ' ' :: (commentBody text.toList ++ " -->".toList) ∨
        before = "<!-- ".toList ++ commentBody text.toList ++ [' '] ∧ behind = ['>'] := by
  have apart : adjacentHyphens (' ' :: commentBody text.toList) = 0 := by
    rw [adjacentHyphens_single (by simp), adjacentHyphens_commentBody]
  have shape : commentLine text =
      '<' :: '!' :: '-' :: '-' :: ((' ' :: commentBody text.toList) ++ " -->".toList) := by
    rw [commentLine_eq]
    rfl
  rw [shape]
  constructor
  · intro whole
    -- the four characters of the opening one by one; behind them only the closing is left
    rcases before with - | ⟨c, - | ⟨d, - | ⟨e, - | ⟨f, before⟩⟩⟩⟩
    · simp at whole
    · simp at whole
    · obtain ⟨rfl, rfl, rfl⟩ : '<' = c ∧ '!' = d ∧
          (' ' :: commentBody text.toList) ++ " -->".toList = behind := by simpa using whole
      exact .inl ⟨rfl, rfl⟩
    · simp at whole
    · obtain ⟨rfl, rfl, rfl, rfl, rest⟩ : '<' = c ∧ '!' = d ∧ '-' = e ∧ '-' = f ∧
          (' ' :: commentBody text.toList) ++ " -->".toList = before ++ ['-', '-'] ++ behind := by
        simpa using whole
      obtain ⟨rfl, rfl⟩ := (append_close_eq_iff apart).1 rest
      exact .inr ⟨rfl, rfl⟩
  · rintro (⟨rfl, rfl⟩ | ⟨rfl, rfl⟩)
    · rfl
    · rw [(append_close_eq_iff apart).2 ⟨rfl, rfl⟩]
      simp

/-- The end of a comment stands at its end, and nowhere else. -/
theorem commentLine_eq_end_iff {text : String} {before behind : List Char} :
    commentLine text = before ++ "-->".toList ++ behind ↔
      before = "<!-- ".toList ++ commentBody text.toList ++ [' '] ∧ behind = [] := by
  have shape : before ++ "-->".toList ++ behind = before ++ ['-', '-'] ++ '>' :: behind := by simp
  rw [shape, commentLine_eq_pair_iff]
  simp

/-- A comment is written on a line of its own, between its delimiters, and nothing else of the
    document is touched. Whatever the text is, the passes over it come to an end after two at most,
    and leave one space between every two adjacent hyphens; they may as well be made before the text
    is escaped. No two hyphens stand side by side in what is written between the delimiters, and in
    the whole comment they do so in the two delimiters only; so the comment ends where its last
    three characters say so, and not before. -/
theorem comment_exact (b : Builder) (text : String) :
    (∃ n ≤ 2, Passes n (escape text.toList) (commentBody text.toList)) ∧
      (∀ s t, (∃ n, Passes n s t) ↔ t = spaced s) ∧
      (∀ s, spaced (escape s) = escape (spaced s)) ∧
      b.comment text = b.append (indentation b.depth ++ "<!-- ".toList ++
        escape (spaced text.toList) ++ " -->\n".toList) ∧
      commentBody text.toList = escape (spaced text.toList) ∧
      ¬ ['-', '-'] <:+: commentBody text.toList ∧
      (∀ before behind, commentLine text = before ++ ['-', '-'] ++ behind ↔
        before = "<!".toList ∧ behind = ' ' :: (commentBody text.toList ++ " -->".toList) ∨
          before = "<!-- ".toList ++ commentBody text.toList ++ [' '] ∧ behind = ['>']) ∧
      ∀ before behind, commentLine text = before ++ "-->".toList ++ behind ↔
        before = "<!-- ".toList ++ commentBody text.toList ++ [' '] ∧ behind = [] := by
  refine ⟨?_, fun s t => passes_iff, spaced_escape, ?_, commentBody_eq text.toList,
    adjacentHyphens_eq_zero_iff.1 (adjacentHyphens_commentBody text.toList),
    fun before behind => commentLine_eq_pair_iff, fun before behind => commentLine_eq_end_iff⟩
  · obtain ⟨n, passes⟩ := exists_passes (escape text.toList)
    exact ⟨n, passes.le_two, passes⟩
  · have written : b.comment text = b.append (indented b.depth (commentLine text)) := rfl
    have closing : " -->\n".toList = " -->".toList ++ ['\n'] := by decide
    rw [written, indented, commentLine_eq, commentBody_eq, indentation, closing]
    simp only [List.append_assoc]

end MapStyle.Xml
