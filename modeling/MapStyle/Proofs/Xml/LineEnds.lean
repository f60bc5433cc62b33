import MapStyle.Proofs.Xml.ReadBack

/-!
# Line ends and characters of documents

A processor of XML 1.0 refuses a document with characters outside `Char`, and takes every carriage
return, with the line feed behind it if there is one, for a line feed before it reads on. Tags and
escaped texts keep apart under this: a document is seen as one whose texts have been treated so before
they were written.
-/

namespace MapStyle.Xml

/-! ## Characters -/

/-- The characters that may stand in a document of XML 1.0. -/
def isXmlChar (c : Char) : Bool :=
  let n := c.toNat
  n == 0x9 || n == 0xA || n == 0xD || (0x20 ≤ n && n ≤ 0xD7FF) || (0xE000 ≤ n && n ≤ 0xFFFD) ||
    (0x10000 ≤ n && n ≤ 0x10FFFF)

theorem isXmlChar_of_isNameChar {c : Char} (named : isNameChar c = true) : isXmlChar c = true := by
  simp only [isNameChar, isNameStart, isXmlChar, Bool.or_eq_true, Bool.and_eq_true,
    decide_eq_true_eq, beq_iff_eq, ← Char.toNat_inj, Char.reduceToNat] at named ⊢
  omega

theorem all_entity (c : Char) : (entity c).all isXmlChar = isXmlChar c := by
  cases h : isReserved c with
  | true => rcases reserved_cases h with rfl | rfl | rfl | rfl | rfl <;> decide
  | false => rw [entity_of_not_reserved h, List.all_cons, List.all_nil, Bool.and_true]

/-- Escaping brings in and takes away nothing but characters that may stand in a document. -/
theorem all_escape (s : List Char) : (escape s).all isXmlChar = s.all isXmlChar := by
  induction s with
  | nil => rfl
  | cons c s ih => rw [escape_cons, List.all_append, all_entity, ih, List.all_cons]

theorem all_spaced (s : List Char) : (spaced s).all isXmlChar = s.all isXmlChar := by
  induction s with
  | nil => rfl
  | cons c s ih =>
    have gap : (hyphenGap c s).all isXmlChar = true := by
      rw [hyphenGap]
      split <;> decide
    rw [spaced_cons, List.all_cons, List.all_append, gap, ih, List.all_cons, Bool.true_and]

/-! ## Characters of markup -/

/-- A text with nothing but characters that may stand in a document. -/
def isXmlText (s : String) : Bool := s.toList.all isXmlChar

theorem isXmlText_of_isName {name : String} (named : isName name = true) :
    name.toList.all isXmlChar = true := by
  have inside := (Bool.and_eq_true_iff.1 named).2
  apply List.all_eq_true.2
  intro c member
  exact isXmlChar_of_isNameChar (List.all_eq_true.1 inside c member)

theorem all_attributes {attributes : Attributes} (named : attributes.all (isName ·.1) = true) :
    (attributes.flatMap fun a => attributeText a.1 a.2).all isXmlChar =
      (attributes.map Prod.snd).all isXmlText := by
  induction attributes with
  | nil => rfl
  | cons a more ih =>
    obtain ⟨here, there⟩ := Bool.and_eq_true_iff.1 (List.all_cons ▸ named)
    have marks : isXmlChar ' ' = true ∧ isXmlChar '=' = true ∧ isXmlChar '\x22' = true := by decide
    have value : (attributeText a.1 a.2).all isXmlChar = isXmlText a.2 := by
      simp [attributeText, isXmlText, all_escape, isXmlText_of_isName here, marks]
    rw [List.flatMap_cons, List.all_append, value, ih there, List.map_cons, List.all_cons]

theorem all_startTag {name : String} {attributes : Attributes}
    (tag : isTag name attributes = true) :
    (startTag name attributes).all isXmlChar = (attributes.map Prod.snd).all isXmlText := by
  simp only [isTag, Bool.and_eq_true] at tag
  have marks : isXmlChar '<' = true ∧ isXmlChar '>' = true := by decide
  simp [startTag, all_attributes tag.1.2, isXmlText_of_isName tag.1.1, marks]

theorem all_endTag {name : String} (named : isName name = true) :
    (endTag name).all isXmlChar = true := by
  have marks : isXmlChar '<' = true ∧ isXmlChar '/' = true ∧ isXmlChar '>' = true := by decide
  simp [endTag, isXmlText_of_isName named, marks]

theorem all_commentLine (text : String) : (commentLine text).all isXmlChar = isXmlText text := by
  have marks : "<!-- ".toList.all isXmlChar = true ∧ " -->".toList.all isXmlChar = true := by decide
  rw [commentLine_eq, commentBody_eq, List.all_append, List.all_append, all_escape, all_spaced,
    marks.1, marks.2, Bool.true_and, Bool.and_true, isXmlText]

theorem all_indented (depth : Nat) (line : List Char) :
    (indented depth line).all isXmlChar = line.all isXmlChar := by
  have blanks : (List.replicate (2 * depth) ' ').all isXmlChar = true := by
    apply List.all_eq_true.2
    intro c member
    rw [List.eq_of_mem_replicate member]
    decide
  have feed : ['\n'].all isXmlChar = true := by decide
  rw [indented, List.all_append, List.all_append, blanks, feed, Bool.true_and, Bool.and_true]

mutual
/-- The texts in a tree: the values of attributes, and what leaves and comments hold. -/
def Node.texts : Node → List String
  | .leaf _ attributes text => attributes.map Prod.snd ++ [text]
  | .element _ attributes children => attributes.map Prod.snd ++ textsIn children
  | .comment text => [text]

/-- The texts in trees. -/
def Node.textsIn : List Node → List String
  | [] => []
  | node :: rest => node.texts ++ textsIn rest
end

mutual
/-- A tree is written with characters that may stand in a document exactly if its texts have no
    others. -/
theorem all_render (depth : Nat) {node : Node} (named : node.WellNamed) :
    (node.render depth).all isXmlChar = node.texts.all isXmlText := by
  cases node with
  | leaf name attributes text =>
    have tag : isTag name attributes = true := named
    rw [Node.render, all_indented, leafLine, List.all_append, List.all_append, all_startTag tag,
      all_escape, all_endTag (isName_of_isTag tag), Node.texts, List.all_append, Bool.and_true,
      List.all_cons, List.all_nil, Bool.and_true]
    rfl
  | comment text =>
    rw [Node.render, all_indented, all_commentLine, Node.texts, List.all_cons, List.all_nil,
      Bool.and_true]
  | element name attributes children =>
    obtain ⟨tag, inside⟩ : isTag name attributes = true ∧ Node.AllIn _ _ _ children := named
    rw [Node.render, List.all_append, List.all_append, all_indented, all_indented, all_startTag tag,
      all_renderAll (depth + 1) inside, all_endTag (isName_of_isTag tag), Bool.and_true, Node.texts,
      List.all_append]

theorem all_renderAll (depth : Nat) {nodes : List Node}
    (named : Node.AllIn (isTag · · = true) (isTag · · = true) (fun _ => True) nodes) :
    (Node.renderAll depth nodes).all isXmlChar = (Node.textsIn nodes).all isXmlText := by
  cases nodes with
  | nil => rfl
  | cons node rest =>
    obtain ⟨here, there⟩ : node.WellNamed ∧ Node.AllIn _ _ _ rest := named
    rw [Node.renderAll, List.all_append, all_render depth here, all_renderAll depth there,
      Node.textsIn, List.all_append]
end

/-- The characters of a document are those of its texts, as far as they may not stand there. -/
theorem isXmlText_document {node : Node} (named : node.WellNamed) :
    isXmlText (Builder.declaration ++ String.ofList (node.render 0)) = node.texts.all isXmlText := by
  have front : Builder.declaration.toList.all isXmlChar = true := by decide
  rw [isXmlText, String.toList_append, String.toList_ofList, List.all_append, front,
    all_render 0 named, Bool.true_and]

/-! ## Line ends -/

/-- A text with a line feed for every carriage return, and for the line feed behind it. -/
def normalizeEnds : List Char → List Char
  | '\r' :: '\n' :: rest => '\n' :: normalizeEnds rest
  | '\r' :: rest => '\n' :: normalizeEnds rest
  | c :: rest => c :: normalizeEnds rest
  | [] => []

theorem head?_ne_of_ne_cons {s : List Char} {c : Char} (other : ∀ tail, s = c :: tail → False) :
    s.head? ≠ some c := by
  intro first
  obtain ⟨tail, same⟩ := List.head?_eq_some_iff.1 first
  exact other tail same

@[simp] theorem normalizeEnds_nil : normalizeEnds [] = [] := rfl

theorem normalizeEnds_pair (s : List Char) :
    normalizeEnds ('\r' :: '\n' :: s) = '\n' :: normalizeEnds s := rfl

theorem normalizeEnds_return {s : List Char} (alone : s.head? ≠ some '\n') :
    normalizeEnds ('\r' :: s) = '\n' :: normalizeEnds s := by
  apply normalizeEnds.eq_2
  rintro rest rfl
  exact alone rfl

theorem normalizeEnds_cons {c : Char} (other : c ≠ '\r') (s : List Char) :
    normalizeEnds (c :: s) = c :: normalizeEnds s := by
  apply normalizeEnds.eq_3
  · rintro rest rfl
    exact absurd rfl other
  · rintro rfl
    exact absurd rfl other

theorem return_notMem_normalizeEnds (s : List Char) : '\r' ∉ normalizeEnds s := by
  fun_induction normalizeEnds s with
  | case1 rest ih => simp [ih]
  | case2 rest alone ih => simp [ih]
  | case3 c rest notPair notReturn ih =>
    simp [ih, Ne.symm notReturn]
  | case4 => simp

theorem normalizeEnds_plain {s : List Char} (plain : '\r' ∉ s) (rest : List Char) :
    normalizeEnds (s ++ rest) = s ++ normalizeEnds rest := by
  induction s with
  | nil => rfl
  | cons c s ih =>
    rw [List.mem_cons, not_or] at plain
    rw [List.cons_append, normalizeEnds_cons (Ne.symm plain.1), ih plain.2, List.cons_append]

/-- A text keeps its line ends exactly if it has no carriage return. -/
theorem normalizeEnds_eq_self_iff {s : List Char} : normalizeEnds s = s ↔ '\r' ∉ s := by
  constructor
  · intro same
    rw [← same]
    exact return_notMem_normalizeEnds s
  · intro plain
    have alone := normalizeEnds_plain plain []
    rwa [List.append_nil, normalizeEnds_nil, List.append_nil] at alone

theorem head?_normalizeEnds {c : Char} (other : c ≠ '\n') (notReturn : c ≠ '\r') (s : List Char) :
    (normalizeEnds s).head? = some c ↔ s.head? = some c := by
  fun_cases normalizeEnds s <;> simp [other.symm, notReturn.symm]

/-- Texts keep apart, unless one begins with a line feed. -/
theorem normalizeEnds_append (s : List Char) {t : List Char} (apart : t.head? ≠ some '\n') :
    normalizeEnds (s ++ t) = normalizeEnds s ++ normalizeEnds t := by
  fun_induction normalizeEnds s with
  | case1 rest ih => rw [List.cons_append, List.cons_append, normalizeEnds_pair, ih]; rfl
  | case2 rest alone ih =>
    -- only at its very end can the return meet what stands behind `s`
    have behind : (rest ++ t).head? ≠ some '\n' := by
      cases rest with
      | nil => exact apart
      | cons d rest =>
        have first : (d :: rest).head? ≠ some '\n' := head?_ne_of_ne_cons alone
        exact first
    rw [List.cons_append, normalizeEnds_return behind, ih, List.cons_append]
  | case3 c rest notPair notReturn ih =>
    rw [List.cons_append, normalizeEnds_cons notReturn, ih, List.cons_append]
  | case4 => rfl

/-! ## Line ends of escaped texts -/

theorem return_notMem_entity {c : Char} (other : c ≠ '\r') : '\r' ∉ entity c := by
  cases h : isReserved c with
  | true => rcases reserved_cases h with rfl | rfl | rfl | rfl | rfl <;> decide
  | false => rw [entity_of_not_reserved h, List.mem_singleton]; exact other.symm

theorem normalizeEnds_escape (s : List Char) :
    normalizeEnds (escape s) = escape (normalizeEnds s) := by
  have mark : entity '\r' = ['\r'] := by decide
  have feed : entity '\n' = ['\n'] := by decide
  fun_induction normalizeEnds s with
  | case1 rest ih =>
    rw [escape_cons, escape_cons, escape_cons, mark, feed, ← ih]
    rfl
  | case2 rest alone ih =>
    have behind : (escape rest).head? ≠ some '\n' := by
      rw [ne_eq, head?_escape (by decide)]
      exact head?_ne_of_ne_cons alone
    rw [escape_cons, escape_cons, mark, feed, ← ih, List.singleton_append,
      normalizeEnds_return behind]
    rfl
  | case3 c rest notPair notReturn ih =>
    rw [escape_cons, escape_cons, normalizeEnds_plain (return_notMem_entity notReturn), ih]
  | case4 => rfl

theorem normalizeEnds_spaced (s : List Char) :
    normalizeEnds (spaced s) = spaced (normalizeEnds s) := by
  fun_induction normalizeEnds s with
  | case1 rest ih =>
    rw [spaced_cons, spaced_cons, spaced_cons, ← ih]
    rfl
  | case2 rest alone ih =>
    have behind : (spaced rest).head? ≠ some '\n' := by
      rw [head?_spaced]
      exact head?_ne_of_ne_cons alone
    have noGap : hyphenGap '\r' rest ++ spaced rest = spaced rest := rfl
    rw [spaced_cons, spaced_cons, noGap, normalizeEnds_return behind, ih]
    rfl
  | case3 c rest notPair notReturn ih =>
    have gap : hyphenGap c (normalizeEnds rest) = hyphenGap c rest := by
      simp only [hyphenGap, head?_normalizeEnds (c := '-') (by decide) (by decide)]
    have plain : '\r' ∉ hyphenGap c rest := by
      rw [hyphenGap]
      split <;> decide
    rw [spaced_cons, spaced_cons, normalizeEnds_cons notReturn, normalizeEnds_plain plain, ih, gap]
  | case4 => rfl

theorem normalizeEnds_commentBody (s : List Char) :
    normalizeEnds (commentBody s) = commentBody (normalizeEnds s) := by
  rw [commentBody_eq, commentBody_eq, normalizeEnds_escape, normalizeEnds_spaced]

/-! ## Line ends of markup -/

/-- What becomes of a text that stands in a document, whatever stands behind it. -/
def Settles (before after : List Char) : Prop :=
  ∀ rest, normalizeEnds (before ++ rest) = after ++ normalizeEnds rest

theorem Settles.append {s s' t t' : List Char} (left : Settles s s') (right : Settles t t') :
    Settles (s ++ t) (s' ++ t') := by
  intro rest
  rw [List.append_assoc, left, right, List.append_assoc]

theorem settles_plain {s : List Char} (plain : '\r' ∉ s) : Settles s s :=
  normalizeEnds_plain plain

/-- What stands in front of a mark of markup keeps apart from it. -/
theorem settles_before {c : Char} (notFeed : c ≠ '\n') (notReturn : c ≠ '\r') (s : List Char) :
    Settles (s ++ [c]) (normalizeEnds s ++ [c]) := by
  intro rest
  have apart : (c :: rest).head? ≠ some '\n' := by simpa using notFeed
  rw [List.append_assoc, List.singleton_append, normalizeEnds_append s apart,
    normalizeEnds_cons notReturn, List.append_assoc, List.singleton_append]

/-- A text with its line ends replaced. -/
def normalizeText (s : String) : String := String.ofList (normalizeEnds s.toList)

/-- Attributes with the line ends of their values replaced. -/
def normalizeValues (attributes : Attributes) : Attributes :=
  attributes.map fun a => (a.1, normalizeText a.2)

theorem return_notMem_of_isName {name : String} (named : isName name = true) :
    '\r' ∉ name.toList := by
  have inside := (Bool.and_eq_true_iff.1 named).2
  intro member
  exact absurd (List.all_eq_true.1 inside _ member) (by decide)

theorem settles_attributeText {key : String} (named : isName key = true) (value : String) :
    Settles (attributeText key value) (attributeText key (normalizeText value)) := by
  -- the closing quote is no line feed, so the value keeps its own end
  have front : '\r' ∉ ' ' :: key.toList ++ ['=', '\x22'] := by
    simp [return_notMem_of_isName named]
  have quoted := settles_before (c := '\x22') (by decide) (by decide) (escape value.toList)
  rw [normalizeEnds_escape] at quoted
  have whole := (settles_plain front).append quoted
  simpa [attributeText, normalizeText] using whole

theorem settles_attributes {attributes : Attributes}
    (named : attributes.all (isName ·.1) = true) :
    Settles (attributes.flatMap fun a => attributeText a.1 a.2)
      ((normalizeValues attributes).flatMap fun a => attributeText a.1 a.2) := by
  induction attributes with
  | nil => exact settles_plain List.not_mem_nil
  | cons a more ih =>
    obtain ⟨here, there⟩ := Bool.and_eq_true_iff.1 (List.all_cons ▸ named)
    exact (settles_attributeText here a.2).append (ih there)

theorem settles_startTag {name : String} {attributes : Attributes}
    (tag : isTag name attributes = true) :
    Settles (startTag name attributes) (startTag name (normalizeValues attributes)) := by
  simp only [isTag, Bool.and_eq_true] at tag
  have front : '\r' ∉ '<' :: name.toList := by simp [return_notMem_of_isName tag.1.1]
  exact ((settles_plain front).append (settles_attributes tag.1.2)).append
    (settles_plain (by decide))

theorem settles_endTag {name : String} (named : isName name = true) :
    Settles (endTag name) (endTag name) := by
  apply settles_plain
  simp [endTag, return_notMem_of_isName named]

theorem settles_leafLine {name : String} {attributes : Attributes}
    (tag : isTag name attributes = true) (text : String) :
    Settles (leafLine name attributes text)
      (leafLine name (normalizeValues attributes) (normalizeText text)) := by
  have named := isName_of_isTag tag
  have behind : '\r' ∉ '/' :: name.toList ++ ['>'] := by simp [return_notMem_of_isName named]
  have inside := settles_before (c := '<') (by decide) (by decide) (escape text.toList)
  rw [normalizeEnds_escape] at inside
  have whole := (settles_startTag tag).append (inside.append (settles_plain behind))
  simpa [leafLine, endTag, normalizeText] using whole

theorem settles_commentLine (text : String) :
    Settles (commentLine text) (commentLine (normalizeText text)) := by
  have front : '\r' ∉ "<!-- ".toList := by decide
  have behind : '\r' ∉ ['-', '-', '>'] := by decide
  have closing : " -->".toList = [' '] ++ ['-', '-', '>'] := by decide
  have inside := settles_before (c := ' ') (by decide) (by decide) (commentBody text.toList)
  rw [normalizeEnds_commentBody] at inside
  have whole := ((settles_plain front).append inside).append (settles_plain behind)
  rw [commentLine_eq, commentLine_eq, closing, normalizeText, String.toList_ofList]
  simpa using whole

theorem Settles.indented {before after : List Char} (line : Settles before after) (depth : Nat) :
    Settles (indented depth before) (Xml.indented depth after) := by
  have blanks : '\r' ∉ List.replicate (2 * depth) ' ' := by
    intro member
    exact absurd (List.eq_of_mem_replicate member) (by decide)
  exact ((settles_plain blanks).append line).append (settles_plain (by decide))

mutual
/-- A tree with the line ends of all its texts replaced. -/
def Node.normalized : Node → Node
  | .leaf name attributes text => .leaf name (normalizeValues attributes) (normalizeText text)
  | .element name attributes children =>
    .element name (normalizeValues attributes) (normalizedAll children)
  | .comment text => .comment (normalizeText text)

/-- Trees with the line ends of all their texts replaced. -/
def Node.normalizedAll : List Node → List Node
  | [] => []
  | node :: rest => node.normalized :: normalizedAll rest
end

mutual
/-- The lines of a tree become those of the tree with other line ends. -/
theorem settles_render (depth : Nat) {node : Node} (named : node.WellNamed) :
    Settles (node.render depth) (node.normalized.render depth) := by
  cases node with
  | leaf name attributes text =>
    rw [Node.normalized, Node.render, Node.render]
    exact (settles_leafLine named text).indented depth
  | comment text =>
    rw [Node.normalized, Node.render, Node.render]
    exact (settles_commentLine text).indented depth
  | element name attributes children =>
    obtain ⟨tag, inside⟩ : isTag name attributes = true ∧ Node.AllIn _ _ _ children := named
    rw [Node.normalized, Node.render, Node.render]
    exact (((settles_startTag tag).indented depth).append (settles_renderAll (depth + 1) inside)).append
      ((settles_endTag (isName_of_isTag tag)).indented depth)

theorem settles_renderAll (depth : Nat) {nodes : List Node}
    (named : Node.AllIn (isTag · · = true) (isTag · · = true) (fun _ => True) nodes) :
    Settles (Node.renderAll depth nodes) (Node.renderAll depth (Node.normalizedAll nodes)) := by
  cases nodes with
  | nil => exact settles_plain List.not_mem_nil
  | cons node rest =>
    obtain ⟨here, there⟩ : node.WellNamed ∧ Node.AllIn _ _ _ rest := named
    rw [Node.normalizedAll, Node.renderAll, Node.renderAll]
    exact (settles_render depth here).append (settles_renderAll depth there)
end

/-- A document is seen as the document of the tree with other line ends. -/
theorem normalizeText_document {node : Node} (named : node.WellNamed) :
    normalizeText (Builder.declaration ++ String.ofList (node.render 0)) =
      Builder.declaration ++ String.ofList (node.normalized.render 0) := by
  have front : '\r' ∉ Builder.declaration.toList := by decide
  have whole := (settles_plain front).append (settles_render 0 named) []
  rw [List.append_nil, normalizeEnds_nil, List.append_nil] at whole
  rw [normalizeText, String.toList_append, String.toList_ofList, whole, String.ofList_append,
    String.ofList_toList]

mutual
/-- Other line ends leave alone what is asked of names. -/
theorem Node.All.normalized {leaf element : String → Attributes → Prop}
    (leaves : ∀ name attributes, leaf name attributes → leaf name (normalizeValues attributes))
    (elements : ∀ name attributes, element name attributes →
      element name (normalizeValues attributes))
    {node : Node} (all : node.All leaf element fun _ => True) :
    node.normalized.All leaf element fun _ => True := by
  cases node with
  | leaf name attributes text =>
    rw [Node.normalized]
    exact leaves name attributes all
  | comment text =>
    rw [Node.normalized]
    trivial
  | element name attributes children =>
    obtain ⟨here, inside⟩ : element name attributes ∧ AllIn leaf element _ children := all
    rw [Node.normalized]
    exact ⟨elements name attributes here, AllIn.normalized leaves elements inside⟩

theorem Node.AllIn.normalized {leaf element : String → Attributes → Prop}
    (leaves : ∀ name attributes, leaf name attributes → leaf name (normalizeValues attributes))
    (elements : ∀ name attributes, element name attributes →
      element name (normalizeValues attributes))
    {nodes : List Node} (all : AllIn leaf element (fun _ => True) nodes) :
    AllIn leaf element (fun _ => True) (normalizedAll nodes) := by
  cases nodes with
  | nil => trivial
  | cons node rest =>
    obtain ⟨here, there⟩ : node.All leaf element _ ∧ AllIn leaf element _ rest := all
    rw [Node.normalizedAll]
    exact ⟨Node.All.normalized leaves elements here, AllIn.normalized leaves elements there⟩
end

end MapStyle.Xml
