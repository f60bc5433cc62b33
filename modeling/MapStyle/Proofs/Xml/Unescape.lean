import MapStyle.Proofs.Xml.Entities

/-!
# Escaped text and what it means

`IsEscaped` says what escaped text looks like, and `unescape` replaces entities by what they mean, in
one walk from the left. Together they say which text is escaped to which: no text that holds entities
of its own is taken for another one. Main statement: `escape_exact`.
-/

namespace MapStyle.Xml

/-! ## Entities -/

/-- The five entities. -/
def entities : List String := ["&amp;", "&lt;", "&gt;", "&quot;", "&#39;"]

/-- The entities are what the reserved characters become. -/
theorem mem_entities_iff {text : String} :
    text ∈ entities ↔ ∃ c, isReserved c = true ∧ text.toList = entity c := by
  have spelled : entities =
      ['&', '<', '>', '\x22', '\x27'].map fun c => String.ofList (entity c) := by decide
  have reserved : ∀ c, c ∈ ['&', '<', '>', '\x22', '\x27'] ↔ isReserved c = true := by
    simp [isReserved, or_assoc]
  rw [spelled, List.mem_map]
  constructor
  · rintro ⟨c, member, rfl⟩
    exact ⟨c, (reserved c).1 member, String.toList_ofList⟩
  · rintro ⟨c, known, same⟩
    exact ⟨c, (reserved c).2 known, by rw [← same, String.ofList_toList]⟩

/-- Behind an ampersand, an entity is read exactly where the text begins with it. -/
theorem entity?_eq_some_iff {s rest : List Char} {c : Char} :
    entity? s = some (c, rest) ↔ isReserved c = true ∧ '&' :: s = entity c ++ rest := by
  constructor
  · intro read
    unfold entity? at read
    split at read <;> cases read <;> exact ⟨by decide, rfl⟩
  · rintro ⟨known, whole⟩
    rcases reserved_cases known with rfl | rfl | rfl | rfl | rfl <;>
      (obtain rfl := (List.cons.inj whole).2; rfl)

/-! ## The look of escaped text -/

/-- Text without reserved characters, except for ampersands that begin an entity. -/
structure IsEscaped (s : List Char) : Prop where
  bare : ∀ c ∈ s, c ≠ '<' ∧ c ≠ '>' ∧ c ≠ '\x22' ∧ c ≠ '\x27'
  ampersand : ∀ before behind, s = before ++ '&' :: behind →
    ∃ text ∈ entities, text.toList <+: '&' :: behind

theorem isEscaped_nil : IsEscaped [] := ⟨by simp, by simp⟩

/-- No entity is cut in two where escaped texts meet. -/
theorem IsEscaped.append {s t : List Char} (first : IsEscaped s) (second : IsEscaped t) :
    IsEscaped (s ++ t) := by
  refine ⟨List.forall_mem_append.2 ⟨first.bare, second.bare⟩, ?_⟩
  intro before behind whole
  rcases List.append_eq_append_iff.1 whole with ⟨front, rfl, rest⟩ | ⟨front, rfl, rest⟩
  · exact second.ampersand front behind rest
  · cases front with
    | nil => exact second.ampersand [] behind rest.symm
    | cons c inner =>
      obtain ⟨rfl, rfl⟩ := List.cons.inj rest
      obtain ⟨text, member, here⟩ := first.ampersand before inner rfl
      exact ⟨text, member, here.trans (List.prefix_append ('&' :: inner) t)⟩

theorem isEscaped_entity (c : Char) : IsEscaped (entity c) := by
  cases known : isReserved c with
  | false =>
    rw [entity_of_not_reserved known]
    simp only [isReserved, Bool.or_eq_false_iff, beq_eq_false_iff_ne, ne_eq] at known
    refine ⟨by simp [known], ?_⟩
    intro before behind whole
    cases before with
    | nil => exact absurd (List.cons.inj whole).1 known.1.1.1.1
    | cons d before => simp at whole
  | true =>
    -- the ampersand is the first character of the entity, and there is no other one in it
    have alone : ∃ rest, entity c = '&' :: rest ∧ '&' ∉ rest ∧
        ∀ d ∈ '&' :: rest, d ≠ '<' ∧ d ≠ '>' ∧ d ≠ '\x22' ∧ d ≠ '\x27' := by
      rcases reserved_cases known with rfl | rfl | rfl | rfl | rfl <;>
        exact ⟨_, rfl, by decide, by simp⟩
    obtain ⟨rest, shape, once, bare⟩ := alone
    refine ⟨shape ▸ bare, ?_⟩
    intro before behind whole
    cases before with
    | nil =>
      refine ⟨String.ofList (entity c), mem_entities_iff.2 ⟨c, known, String.toList_ofList⟩, ?_⟩
      rw [String.toList_ofList, whole]
      exact List.prefix_rfl
    | cons d before =>
      rw [shape] at whole
      have later : '&' ∈ rest := by rw [(List.cons.inj whole).2]; simp
      exact absurd later once

theorem isEscaped_escape (s : List Char) : IsEscaped (escape s) := by
  induction s with
  | nil => exact isEscaped_nil
  | cons c rest ih =>
    rw [escape_cons]
    exact (isEscaped_entity c).append ih

theorem IsEscaped.of_append {s t : List Char} (whole : IsEscaped (s ++ t)) : IsEscaped t := by
  refine ⟨fun c member => whole.bare c (List.mem_append_right s member), ?_⟩
  rintro before behind rfl
  exact whole.ampersand (s ++ before) behind (List.append_assoc s before _).symm

/-! ## Reading it back -/

/-- The text with every entity replaced by the character it means. An ampersand that begins none
    stands for itself. -/
def unescape (s : List Char) : List Char :=
  match s with
  | [] => []
  | c :: rest =>
    if c = '&' then
      match _h : entity? rest with
      | some (d, tail) => d :: unescape tail
      | none => c :: unescape rest
    else c :: unescape rest
termination_by s.length
decreasing_by
  · have shorter := entity?_length _h
    simp only [List.length_cons]
    omega
  · simp
  · simp

/-- A character is read back from what it becomes, whatever follows. -/
theorem unescape_entity_append (c : Char) (rest : List Char) :
    unescape (entity c ++ rest) = c :: unescape rest := by
  cases known : isReserved c with
  | true =>
    obtain ⟨tail, whole⟩ : ∃ tail, entity c ++ rest = '&' :: tail := by
      rcases reserved_cases known with rfl | rfl | rfl | rfl | rfl <;> exact ⟨_, rfl⟩
    have read : entity? tail = some (c, rest) := entity?_eq_some_iff.2 ⟨known, whole.symm⟩
    rw [whole, unescape, if_pos rfl]
    split
    · next d last found =>
      obtain ⟨rfl, rfl⟩ := Prod.mk.inj (Option.some.inj (found.symm.trans read))
      rfl
    · next none => cases none.symm.trans read
  | false =>
    have plain : c ≠ '&' := by
      rintro rfl
      exact absurd known (by decide)
    rw [entity_of_not_reserved known, List.singleton_append, unescape, if_neg plain]

theorem unescape_escape (s : List Char) : unescape (escape s) = s := by
  induction s with
  | nil => rw [escape_nil, unescape]
  | cons c rest ih => rw [escape_cons, unescape_entity_append, ih]

/-- Text that looks escaped has been escaped. -/
theorem IsEscaped.escape_unescape {s : List Char} (escaped : IsEscaped s) :
    escape (unescape s) = s := by
  fun_induction unescape s with
  | case1 => rfl
  | case2 rest d tail read ih =>
    obtain ⟨-, whole⟩ := entity?_eq_some_iff.1 read
    rw [whole] at escaped
    rw [escape_cons, ih escaped.of_append, whole]
  | case3 rest unread ih =>
    obtain ⟨text, member, tail, whole⟩ := escaped.ampersand [] rest rfl
    obtain ⟨c, known, spelled⟩ := mem_entities_iff.1 member
    have read : entity? rest = some (c, tail) :=
      entity?_eq_some_iff.2 ⟨known, by rw [← whole, spelled]⟩
    cases unread.symm.trans read
  | case4 c rest plain ih =>
    have free : isReserved c = false := by
      have bare := escaped.bare c List.mem_cons_self
      simp [isReserved, plain, bare]
    have inner : IsEscaped rest := IsEscaped.of_append (s := [c]) escaped
    rw [escape_cons, entity_of_not_reserved free, ih inner, List.singleton_append]

/-- The passes over a text replace each of its characters once and on its own, so texts that are put
    together may be escaped apart. One text is escaped to another exactly if that one has no reserved
    characters but ampersands that begin an entity, and means the first once its entities are read
    from the left. So no two texts are escaped to the same one, even if they hold entities already. -/
theorem escape_exact :
    (∀ s, escape s = s.flatMap entity) ∧
      (∀ s t, escape (s ++ t) = escape s ++ escape t) ∧
      (∀ s t, escape s = t ↔ IsEscaped t ∧ unescape t = s) ∧
      Function.Injective escape := by
  refine ⟨escape_eq_flatMap, escape_append, ?_, fun s t => escape_injective⟩
  intro s t
  constructor
  · rintro rfl
    exact ⟨isEscaped_escape s, unescape_escape s⟩
  · rintro ⟨escaped, rfl⟩
    exact escaped.escape_unescape

/-- An entity that was typed is escaped like any other text. -/
example : escape "<&lt;".toList = "&lt;&amp;lt;".toList := by decide

end MapStyle.Xml
