import MapStyle.Proofs.Xml.Hyphens
import MapStyle.Proofs.Xml.Reader
import MapStyle.Proofs.Xml.Rendering

/-!
# Reading what was written

A tree whose names are names is read back from its lines as `Node.laidOut` says: every text and every
attribute value is the one that was written, and all that comes in addition are the line breaks and
the indentation between tags. `readAll_render` is the streaming form, for any text that follows.
-/

namespace MapStyle.Xml

/-! ## The tree that is read -/

/-- Characters as items. -/
def chars (s : List Char) : List Item := s.map .char

/-- The blanks before a line inside `depth` open elements. -/
def indentation (depth : Nat) : List Char := List.replicate (2 * depth) ' '

mutual
/-- A tree as it is read, inside `depth` open elements. -/
def Node.laidOut (depth : Nat) : Node → Item
  | .leaf name attributes text => .element name attributes (chars text.toList)
  | .element name attributes children =>
    .element name attributes
      (.char '\n' :: (laidOutAll (depth + 1) children ++ chars (indentation depth)))
  | .comment text => .comment (String.ofList (' ' :: (commentBody text.toList ++ [' '])))

/-- Trees as they are read, each on lines of its own. -/
def Node.laidOutAll (depth : Nat) : List Node → List Item
  | [] => []
  | node :: rest =>
    chars (indentation depth) ++ node.laidOut depth :: .char '\n' :: laidOutAll depth rest
end

/-- Whether the names of a tag are names, and those of its attributes are all different. -/
def isTag (name : String) (attributes : Attributes) : Bool :=
  isName name && attributes.all (isName ·.1) && decide (attributes.map Prod.fst).Nodup

theorem isName_of_isTag {name : String} {attributes : Attributes}
    (tag : isTag name attributes = true) : isName name = true := by
  simp only [isTag, Bool.and_eq_true] at tag
  exact tag.1.1

mutual
/-- What is asked of every leaf's and every element's name and attributes, and of every comment. -/
def Node.All (leaf element : String → Attributes → Prop) (comment : String → Prop) : Node → Prop
  | .leaf name attributes _ => leaf name attributes
  | .element name attributes children =>
    element name attributes ∧ AllIn leaf element comment children
  | .comment text => comment text

/-- What is asked of all trees in a list. -/
def Node.AllIn (leaf element : String → Attributes → Prop) (comment : String → Prop) :
    List Node → Prop
  | [] => True
  | node :: rest => node.All leaf element comment ∧ AllIn leaf element comment rest
end

/-- A tree with nothing but names as names. -/
abbrev Node.WellNamed (node : Node) : Prop :=
  node.All (isTag · · = true) (isTag · · = true) fun _ => True

namespace Node

variable {leaf element leaf' element' : String → Attributes → Prop} {comment comment' : String → Prop}

theorem allIn_append {xs ys : List Node} :
    AllIn leaf element comment (xs ++ ys) ↔
      AllIn leaf element comment xs ∧ AllIn leaf element comment ys := by
  induction xs with
  | nil => simp [AllIn]
  | cons node xs ih => rw [List.cons_append, AllIn, AllIn, ih, and_assoc]

theorem allIn_iff {nodes : List Node} :
    AllIn leaf element comment nodes ↔ ∀ node ∈ nodes, node.All leaf element comment := by
  induction nodes with
  | nil => simp [AllIn]
  | cons node rest ih => rw [AllIn, ih, List.forall_mem_cons]

mutual
/-- What is asked may be weakened. -/
theorem All.mono (leaves : ∀ name attributes, leaf name attributes → leaf' name attributes)
    (elements : ∀ name attributes, element name attributes → element' name attributes)
    (comments : ∀ text, comment text → comment' text)
    {node : Node} (h : node.All leaf element comment) : node.All leaf' element' comment' := by
  cases node with
  | leaf name attributes text => exact leaves name attributes h
  | comment text => exact comments text h
  | element name attributes children =>
    obtain ⟨here, inside⟩ : element name attributes ∧ AllIn leaf element comment children := h
    exact ⟨elements name attributes here, AllIn.mono leaves elements comments inside⟩

theorem AllIn.mono (leaves : ∀ name attributes, leaf name attributes → leaf' name attributes)
    (elements : ∀ name attributes, element name attributes → element' name attributes)
    (comments : ∀ text, comment text → comment' text)
    {nodes : List Node} (h : AllIn leaf element comment nodes) :
    AllIn leaf' element' comment' nodes := by
  cases nodes with
  | nil => trivial
  | cons node rest =>
    obtain ⟨here, there⟩ : node.All leaf element comment ∧ AllIn leaf element comment rest := h
    exact ⟨All.mono leaves elements comments here, AllIn.mono leaves elements comments there⟩
end

end Node

/-! ## Names, values and tags -/

theorem takeWhile_append_stop {p : Char → Bool} {s rest : List Char} (inside : s.all p = true)
    (stop : rest.head?.any p = false) :
    (s ++ rest).takeWhile p = s ∧ (s ++ rest).dropWhile p = rest := by
  have all : ∀ c ∈ s, p c = true := List.all_eq_true.1 inside
  rw [List.takeWhile_append_of_pos all, List.dropWhile_append_of_pos all]
  cases rest with
  | nil => simp
  | cons c tail =>
    have first : p c = false := by simpa using stop
    simp [first]

/-- A name is read as far as it goes. -/
theorem name?_append {name : String} (named : isName name = true) {rest : List Char}
    (stop : rest.head?.any isNameChar = false) :
    name? (name.toList ++ rest) = some (name, rest) := by
  have inside : name.toList.all isNameChar = true := (Bool.and_eq_true_iff.1 named).2
  obtain ⟨taken, dropped⟩ := takeWhile_append_stop inside stop
  rw [name?, taken, dropped, String.ofList_toList]
  exact if_pos named

/-- A name begins with a character that is neither white space nor a mark of markup. -/
theorem toList_of_isName {name : String} (named : isName name = true) :
    ∃ c rest, name.toList = c :: rest ∧ isSpace c = false ∧ c ≠ '!' ∧ c ≠ '/' := by
  have begun : name.toList.head?.any isNameStart = true := (Bool.and_eq_true_iff.1 named).1
  cases e : name.toList with
  | nil => simp [e] at begun
  | cons c rest =>
    have start : isNameStart c = true := by simpa [e] using begun
    refine ⟨c, rest, rfl, ?_, ?_, ?_⟩
    · rw [Bool.eq_false_iff]
      intro space
      have four : ((c = ' ' ∨ c = '\t') ∨ c = '\n') ∨ c = '\r' := by simpa [isSpace] using space
      rcases four with ((rfl | rfl) | rfl) | rfl <;> exact absurd start (by decide)
    · rintro rfl
      exact absurd start (by decide)
    · rintro rfl
      exact absurd start (by decide)

theorem head?_entity_append (c : Char) (s : List Char) :
    (entity c ++ s).head? ≠ some '\x22' ∧ (entity c ++ s).head? ≠ some '<' := by
  cases h : isReserved c with
  | true => rcases reserved_cases h with rfl | rfl | rfl | rfl | rfl <;> simp [entity]
  | false =>
    simp only [isReserved, Bool.or_eq_false_iff, beq_eq_false_iff_ne, ne_eq] at h
    simp [entity, h]

theorem value?_cons {s rest : List Char} {c : Char} (bare : s.head? ≠ some '\x22')
    (read : character? s = some (c, rest)) :
    value? s = (value? rest).map fun (value, tail) => (c :: value, tail) := by
  rw [value?.eq_def]
  split
  · simp at bare
  · split
    · next none => simp [none] at read
    · next d tail some =>
      obtain ⟨rfl, rfl⟩ : d = c ∧ tail = rest := by simpa [some] using read
      rfl

/-- An escaped value is read back up to its quote. -/
theorem value?_escape (s rest : List Char) :
    value? (escape s ++ '\x22' :: rest) = some (s, rest) := by
  induction s with
  | nil => rw [escape_nil, List.nil_append, value?]
  | cons c s ih =>
    rw [escape_cons, List.append_assoc,
      value?_cons (head?_entity_append c _).1 (character?_entity c _), ih]
    rfl

theorem attribute?_append {key : String} (named : isName key = true) (value : String)
    (rest : List Char) :
    attribute? (key.toList ++ '=' :: '\x22' :: (escape value.toList ++ '\x22' :: rest)) =
      some ((key, value), rest) := by
  have stop : ('=' :: '\x22' :: (escape value.toList ++ '\x22' :: rest)).head?.any isNameChar =
      false := show isNameChar '=' = false by decide
  have read := name?_append named stop
  rw [attribute?, read]
  simp [value?_escape]

theorem attributes?_blank {rest tail : List Char} {a : String × String}
    (read : attribute? (rest.dropWhile isSpace) = some (a, tail)) :
    attributes? (' ' :: rest) = (attributes? tail).map fun (more, last) => (a :: more, last) := by
  rw [attributes?.eq_2 _ _ (by simp), if_pos (by decide)]
  split
  · next none => simp [none] at read
  · next b last some =>
    obtain ⟨rfl, rfl⟩ : b = a ∧ last = tail := by simpa [some] using read
    rfl

/-- The attributes of a tag are read back up to its end. -/
theorem attributes?_append {attributes : Attributes} (named : attributes.all (isName ·.1) = true)
    (rest : List Char) :
    attributes? (attributes.flatMap (fun a => attributeText a.1 a.2) ++ '>' :: rest) =
      some (attributes, rest) := by
  induction attributes with
  | nil => rw [List.flatMap_nil, List.nil_append, attributes?]
  | cons a more ih =>
    obtain ⟨here, there⟩ := Bool.and_eq_true_iff.1 (List.all_cons ▸ named)
    obtain ⟨c, tail, name, notSpace, -⟩ := toList_of_isName here
    generalize follows : more.flatMap (fun a => attributeText a.1 a.2) ++ '>' :: rest = behind at ih
    have text : (a :: more).flatMap (fun a => attributeText a.1 a.2) ++ '>' :: rest =
        ' ' :: (a.1.toList ++ '=' :: '\x22' :: (escape a.2.toList ++ '\x22' :: behind)) := by
      simp [attributeText, ← follows]
    have begun : (a.1.toList ++ '=' :: '\x22' :: (escape a.2.toList ++ '\x22' :: behind)).dropWhile
        isSpace = a.1.toList ++ '=' :: '\x22' :: (escape a.2.toList ++ '\x22' :: behind) := by
      simp [name, notSpace]
    rw [text, attributes?_blank (begun ▸ attribute?_append here a.2 behind), ih there]
    rfl

theorem token?_of_bare {s : List Char} (bare : s.head? ≠ some '<') :
    token? s = (character? s).map fun (c, rest) => (.char c, rest) := by
  rw [token?.eq_def]
  split
  · simp at bare
  · simp at bare
  · simp at bare
  · rfl

/-- A start tag is read back. -/
theorem token?_startTag {name : String} {attributes : Attributes}
    (tag : isTag name attributes = true) (rest : List Char) :
    token? (startTag name attributes ++ rest) = some (.startTag name attributes, rest) := by
  simp only [isTag, Bool.and_eq_true, decide_eq_true_eq] at tag
  obtain ⟨⟨named, inner⟩, distinct⟩ := tag
  obtain ⟨c, tail, text, -, notBang, notSlash⟩ := toList_of_isName named
  generalize follows : attributes.flatMap (fun a => attributeText a.1 a.2) ++ '>' :: rest = behind
  have shape : startTag name attributes ++ rest = '<' :: (name.toList ++ behind) := by
    simp [startTag, ← follows]
  have stop : behind.head?.any isNameChar = false := by
    rw [← follows]
    cases attributes with
    | nil => show isNameChar '>' = false; decide
    | cons => show isNameChar ' ' = false; decide
  have readName := name?_append named stop
  have readAttributes := attributes?_append inner rest
  rw [follows] at readAttributes
  rw [shape, token?.eq_def]
  split
  · next same => simp [text] at same; exact absurd same.1 notBang
  · next same => simp [text] at same; exact absurd same.1 notSlash
  · next same =>
    obtain rfl := (List.cons.inj same).2
    simp [readName, readAttributes, distinct]
  · next other => exact absurd rfl (other _)

/-- An end tag is read back. -/
theorem token?_endTag {name : String} (named : isName name = true) (rest : List Char) :
    token? (endTag name ++ rest) = some (.endTag name, rest) := by
  have stop : ('>' :: rest).head?.any isNameChar = false := show isNameChar '>' = false by decide
  have read := name?_append named stop
  have shape : endTag name ++ rest = '<' :: '/' :: (name.toList ++ '>' :: rest) := by
    simp [endTag]
  rw [shape, token?_slash]
  simp only [read]

/-- A comment is read to its end if no two of its hyphens stand side by side. -/
theorem commentBody?_append {s : List Char} (apart : adjacentHyphens s = 0) (rest : List Char) :
    commentBody? (s ++ " -->".toList ++ rest) = some (s ++ [' '], rest) := by
  have blank : " -->".toList = [' ', '-', '-', '>'] := by decide
  rw [blank]
  induction s with
  | nil => rfl
  | cons c s ih =>
    rw [adjacentHyphens_cons] at apart
    have single : ¬ (c = '-' ∧ s.head? = some '-') := by
      intro both
      rw [if_pos both] at apart
      omega
    have notPair : ∀ tail, c = '-' → s ++ [' ', '-', '-', '>'] ++ rest ≠ '-' :: tail := by
      rintro tail rfl same
      cases s with
      | nil => simp at same
      | cons d s =>
        obtain ⟨rfl, -⟩ : d = '-' ∧ _ := by simpa using same
        exact single ⟨rfl, rfl⟩
    rw [List.cons_append, List.cons_append, commentBody?.eq_3, ih (by omega)]
    · rfl
    · rintro tail rfl same
      exact notPair _ rfl same
    · rintro tail rfl same
      exact notPair _ rfl same

/-- A comment's line is read back; what it held is spaced and escaped. -/
theorem token?_commentLine (text : String) (rest : List Char) :
    token? (commentLine text ++ rest) =
      some (.comment (String.ofList (' ' :: (commentBody text.toList ++ [' ']))), rest) := by
  have apart : adjacentHyphens (' ' :: commentBody text.toList) = 0 := by
    rw [adjacentHyphens_cons, adjacentHyphens_commentBody]
    simp
  have opening : "<!-- ".toList = ['<', '!', '-', '-', ' '] := by decide
  have shape : commentLine text ++ rest =
      '<' :: '!' :: '-' :: '-' :: (' ' :: commentBody text.toList ++ " -->".toList ++ rest) := by
    rw [commentLine_eq, opening]
    simp
  rw [shape, token?_comment, commentBody?_append apart]
  rfl

/-! ## Lines and trees -/

namespace Reading

@[simp] theorem put_put (r : Reading) (a b : List Item) : (r.put a).put b = r.put (a ++ b) := by
  simp [put]

theorem readAll_nil (r : Reading) : r.readAll [] = some r := by
  rw [readAll]

/-- One step of reading. -/
theorem readAll_step {r next : Reading} {s rest : List Char} {token : Token}
    (read : token? s = some (token, rest)) (taken : r.take token = some next) :
    r.readAll s = next.readAll rest := by
  cases s with
  | nil => simp [token?, character?] at read
  | cons c tail =>
    rw [readAll]
    split
    · next none => simp [none] at read
    · next other last some =>
      obtain ⟨rfl, rfl⟩ : other = token ∧ last = rest := by simpa [some] using read
      rw [taken]

/-- Escaped text is read back character by character. -/
theorem readAll_escape (r : Reading) (s rest : List Char) :
    r.readAll (escape s ++ rest) = (r.put (chars s)).readAll rest := by
  induction s generalizing r with
  | nil => rfl
  | cons c s ih =>
    have read : token? (entity c ++ (escape s ++ rest)) = some (.char c, escape s ++ rest) := by
      rw [token?_of_bare (head?_entity_append c _).2, character?_entity]
      rfl
    rw [escape_cons, List.append_assoc, readAll_step read rfl, ih, put_put]
    rfl

/-- Characters that stand for themselves are read as they are. -/
theorem readAll_plain (r : Reading) {s : List Char} (plain : ∀ c ∈ s, isReserved c = false)
    (rest : List Char) : r.readAll (s ++ rest) = (r.put (chars s)).readAll rest := by
  have same : escape s = s := by
    rw [escape_eq_flatMap]
    induction s with
    | nil => rfl
    | cons c s ih =>
      have here := entity_of_not_reserved (plain c (by simp))
      rw [List.flatMap_cons, here, ih fun d member => plain d (by simp [member])]
      rfl
  rw [← readAll_escape, same]

theorem readAll_indentation (r : Reading) (depth : Nat) (rest : List Char) :
    r.readAll (indentation depth ++ rest) = (r.put (chars (indentation depth))).readAll rest := by
  apply readAll_plain
  intro c member
  rw [List.eq_of_mem_replicate member]
  decide

theorem readAll_newline (r : Reading) (rest : List Char) :
    r.readAll ('\n' :: rest) = (r.put [.char '\n']).readAll rest :=
  readAll_plain r (s := ['\n']) (by simp [isReserved]) rest

/-- What a line holds is read between its indentation and its end. -/
theorem readAll_indented {r : Reading} {depth : Nat} {content rest : List Char} {next : Reading}
    (inside : (r.put (chars (indentation depth))).readAll (content ++ '\n' :: rest) =
      next.readAll ('\n' :: rest)) :
    r.readAll (indented depth content ++ rest) = (next.put [.char '\n']).readAll rest := by
  have shape : indented depth content ++ rest =
      indentation depth ++ (content ++ '\n' :: rest) := by
    simp [indented, indentation]
  rw [shape, readAll_indentation, inside, readAll_newline]

/-- A leaf is read as an element with nothing but its text in it. -/
theorem readAll_leafLine (r : Reading) {name : String} {attributes : Attributes}
    (tag : isTag name attributes = true) (text : String) (rest : List Char) :
    r.readAll (leafLine name attributes text ++ rest) =
      (r.put [.element name attributes (chars text.toList)]).readAll rest := by
  have named := isName_of_isTag tag
  rw [leafLine, List.append_assoc, List.append_assoc,
    readAll_step (token?_startTag tag _) rfl, readAll_escape,
    readAll_step (token?_endTag named rest) (by simp [take, put]; rfl)]
  simp [put]

mutual
/-- A tree is read from its lines, and what follows is read as if nothing had been before. -/
theorem readAll_render (r : Reading) (depth : Nat) {node : Node} (named : node.WellNamed)
    (rest : List Char) :
    r.readAll (node.render depth ++ rest) =
      (r.put (chars (indentation depth) ++ [node.laidOut depth, .char '\n'])).readAll rest := by
  cases node with
  | leaf name attributes text =>
    have tag : isTag name attributes = true := named
    rw [Node.render, readAll_indented (readAll_leafLine _ tag text _), Node.laidOut]
    simp
  | comment text =>
    rw [Node.render, readAll_indented (readAll_step (token?_commentLine text _) rfl), Node.laidOut]
    simp
  | element name attributes children =>
    obtain ⟨tag, inner⟩ : isTag name attributes = true ∧ Node.AllIn _ _ _ children := named
    have isNamed := isName_of_isTag tag
    rw [Node.render, List.append_assoc, List.append_assoc,
      readAll_indented (readAll_step (token?_startTag tag _) rfl),
      readAll_renderAll _ (depth + 1) inner,
      readAll_indented (readAll_step (token?_endTag isNamed _) (by simp [take, put]; rfl)),
      Node.laidOut]
    simp [put]

/-- Trees are read from their lines. -/
theorem readAll_renderAll (r : Reading) (depth : Nat) {nodes : List Node}
    (named : Node.AllIn (isTag · · = true) (isTag · · = true) (fun _ => True) nodes)
    (rest : List Char) :
    r.readAll (Node.renderAll depth nodes ++ rest) =
      (r.put (Node.laidOutAll depth nodes)).readAll rest := by
  cases nodes with
  | nil => rfl
  | cons node more =>
    obtain ⟨here, there⟩ : node.WellNamed ∧ Node.AllIn _ _ _ more := named
    rw [Node.renderAll, List.append_assoc, readAll_render r depth here,
      readAll_renderAll _ depth there, Node.laidOutAll]
    simp
end

end Reading

/-! ## Documents -/

theorem declaration?_append (rest : List Char) :
    declaration? (Builder.declaration.toList ++ rest) = some ('\n' :: rest) := by
  have line : Builder.declaration.toList = prolog ++ ['\n'] := by decide
  rw [line, List.append_assoc, declaration?,
    if_pos (List.isPrefixOf_iff_prefix.2 (List.prefix_append _ _)), List.drop_left]
  rfl

/-- The forest of a document with one tree. -/
theorem readForest_tree {node : Node} (named : node.WellNamed) :
    readForest (Builder.declaration ++ String.ofList (node.render 0)) =
      some [.char '\n', node.laidOut 0, .char '\n'] := by
  have lines := Reading.readAll_render (Reading.start.put [.char '\n']) 0 named []
  rw [List.append_nil, Reading.readAll_nil] at lines
  rw [readForest, String.toList_append, String.toList_ofList, declaration?_append, Option.bind_some,
    Reading.readAll_newline, lines]
  rfl

end MapStyle.Xml
