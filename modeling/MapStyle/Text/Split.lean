/-!
# Cutting a text at a word

`splitFirst` cuts a text at the first place where a word occurs. What lies before, the word and
what lies behind make up the text again.
-/

namespace MapStyle.Text

/-- The parts before and behind the first occurrence of `word` (`split_operands`). -/
def splitFirst (word : List Char) : List Char → Option (List Char × List Char)
  | [] => if word.isEmpty then some ([], []) else none
  | c :: rest =>
    if word.isPrefixOf (c :: rest) then some ([], (c :: rest).drop word.length)
    else (splitFirst word rest).map fun (before, behind) => (c :: before, behind)

/-- Nothing is lost at a cut. -/
theorem eq_append_of_splitFirst {word s before behind : List Char}
    (h : splitFirst word s = some (before, behind)) : s = before ++ word ++ behind := by
  induction s generalizing before with
  | nil =>
    simp only [splitFirst] at h
    split at h <;> simp_all
  | cons c rest ih =>
    simp only [splitFirst] at h
    split at h
    · next hp =>
      obtain ⟨tail, e⟩ := List.isPrefixOf_iff_prefix.1 hp
      simp only [Option.some.injEq, Prod.mk.injEq] at h
      obtain ⟨rfl, rfl⟩ := h
      simp [← e]
    · cases e : splitFirst word rest with
      | none => simp [e] at h
      | some parts =>
        simp only [e, Option.map_some, Option.some.injEq, Prod.mk.injEq] at h
        obtain ⟨rfl, rfl⟩ := h
        simp [ih e]

end MapStyle.Text
