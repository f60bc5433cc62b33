import MapStyle.Proofs.Xml.ReadBack

/-!
# Finding things in what was read

Elements and comments are looked for at every depth and come in the order of the document. Among the
lines of a tree there is nothing to find in the white space between tags, so what is found in a tree
depends on the tree alone.
-/

namespace MapStyle.Xml

/-! ## Items at every depth -/

mutual
/-- The pieces of an item: itself and all that is inside it, in the order of the document. -/
def Item.within : Item → List Item
  | .char c => [.char c]
  | .comment body => [.comment body]
  | .element name attributes content => .element name attributes content :: allWithin content

/-- The pieces of items one after the other. -/
def Item.allWithin : List Item → List Item
  | [] => []
  | item :: rest => item.within ++ allWithin rest
end

/-- What is wanted of the pieces of items. -/
def select {β : Type} (want : Item → Option β) (items : List Item) : List β :=
  (Item.allWithin items).filterMap want

/-- No element with such a tag is wanted. -/
def PassesOver {β : Type} (want : Item → Option β) (tag : String → Attributes → Prop) : Prop :=
  ∀ name attributes content, tag name attributes → want (.element name attributes content) = none

/-- The content of an element with the name given. -/
def Item.contentNamed? (name : String) : Item → Option (List Item)
  | .element other _ content => if other = name then some content else none
  | _ => none

/-- The body of a comment. -/
def Item.comment? : Item → Option String
  | .comment body => some body
  | _ => none

/-- The contents of the elements with the name given, wherever they stand. -/
def contentsOf (name : String) (items : List Item) : List (List Item) :=
  select (Item.contentNamed? name) items

/-- The bodies of the comments, wherever they stand. -/
def commentsIn (items : List Item) : List String := select Item.comment? items

/-! ## What items hold directly -/

/-- The elements among items, if there is nothing but white space between them. -/
def elements? : List Item → Option (List (String × Attributes × List Item))
  | [] => some []
  | .char c :: rest => if isSpace c then elements? rest else none
  | .element name attributes content :: rest =>
    (elements? rest).map ((name, attributes, content) :: ·)
  | .comment _ :: _ => none

/-- The text of items, if they are nothing but characters. -/
def text? : List Item → Option String
  | [] => some ""
  | .char c :: rest => (text? rest).map (String.singleton c ++ ·)
  | _ => none

theorem text?_chars (s : List Char) : text? (chars s) = some (String.ofList s) := by
  induction s with
  | nil => rfl
  | cons c s ih =>
    have step : text? (chars (c :: s)) = (text? (chars s)).map (String.singleton c ++ ·) := rfl
    rw [step, ih, String.ofList_cons]
    rfl

theorem elements?_chars {s : List Char} (blank : ∀ c ∈ s, isSpace c = true) (rest : List Item) :
    elements? (chars s ++ rest) = elements? rest := by
  induction s with
  | nil => rfl
  | cons c s ih =>
    obtain ⟨here, there⟩ := List.forall_mem_cons.1 blank
    have step : elements? (chars (c :: s) ++ rest) =
        if isSpace c then elements? (chars s ++ rest) else none := rfl
    rw [step, if_pos here, ih there]

theorem elements?_indentation (depth : Nat) (rest : List Item) :
    elements? (chars (indentation depth) ++ rest) = elements? rest := by
  apply elements?_chars
  intro c member
  rw [List.eq_of_mem_replicate member]
  decide

theorem elements?_newline (rest : List Item) : elements? (.char '\n' :: rest) = elements? rest :=
  elements?_chars (s := ['\n']) (by simp [isSpace]) rest

/-- What an element holds between its tags, inside `depth` open elements. -/
def Node.inside (depth : Nat) (children : List Node) : List Item :=
  .char '\n' :: (laidOutAll (depth + 1) children ++ chars (indentation depth))

theorem Node.laidOut_element (depth : Nat) (name : String) (attributes : Attributes)
    (children : List Node) :
    (Node.element name attributes children).laidOut depth =
      .element name attributes (inside depth children) := by
  rw [laidOut, inside]

/-- The tag and the content of a tree as they are read. -/
def Node.entry? (depth : Nat) : Node → Option (String × Attributes × List Item)
  | .leaf name attributes text => some (name, attributes, chars text.toList)
  | .element name attributes children => some (name, attributes, inside depth children)
  | .comment _ => none

/-- The trees inside an element are read one after the other, if none of them is a comment. -/
theorem elements?_inside (depth : Nat) (children : List Node) :
    elements? (Node.inside depth children) = children.mapM (Node.entry? (depth + 1)) := by
  rw [Node.inside, elements?_newline]
  induction children with
  | nil =>
    have blanks := elements?_indentation depth []
    rw [List.append_nil] at blanks
    exact blanks
  | cons node rest ih =>
    rw [Node.laidOutAll, List.append_assoc, elements?_indentation, List.cons_append,
      List.mapM_cons]
    cases node with
    | leaf name attributes text =>
      rw [Node.laidOut, elements?, List.cons_append, elements?_newline, ih, Node.entry?]
      cases rest.mapM (Node.entry? (depth + 1)) <;> rfl
    | element name attributes children =>
      rw [Node.laidOut_element, elements?, List.cons_append, elements?_newline, ih, Node.entry?]
      cases rest.mapM (Node.entry? (depth + 1)) <;> rfl
    | comment text => rfl

/-! ## Selecting from items -/

theorem Item.allWithin_append (xs ys : List Item) :
    allWithin (xs ++ ys) = allWithin xs ++ allWithin ys := by
  induction xs with
  | nil => rfl
  | cons item xs ih => rw [List.cons_append, allWithin, allWithin, ih, List.append_assoc]

theorem Item.allWithin_chars (s : List Char) : allWithin (chars s) = chars s := by
  induction s with
  | nil => rfl
  | cons c s ih =>
    have step : allWithin (chars (c :: s)) = [.char c] ++ allWithin (chars s) := rfl
    rw [step, ih]
    rfl

section Select

variable {β : Type} {want : Item → Option β}

theorem select_nil : select want [] = [] := rfl

theorem select_append (xs ys : List Item) :
    select want (xs ++ ys) = select want xs ++ select want ys := by
  rw [select, Item.allWithin_append, List.filterMap_append]
  rfl

theorem select_cons (item : Item) (rest : List Item) :
    select want (item :: rest) = select want [item] ++ select want rest :=
  select_append [item] rest

theorem select_element (name : String) (attributes : Attributes) (content : List Item) :
    select want [.element name attributes content] =
      (want (.element name attributes content)).toList ++ select want content := by
  rw [select, Item.allWithin, Item.allWithin, Item.within, List.append_nil, List.filterMap_cons]
  cases want (.element name attributes content) <;> rfl

theorem select_comment (body : String) :
    select want [.comment body] = (want (.comment body)).toList := by
  rw [select, Item.allWithin, Item.allWithin, Item.within, List.append_nil, List.filterMap_cons]
  cases want (.comment body) <;> rfl

variable (dark : ∀ c, want (.char c) = none)
include dark

theorem select_chars (s : List Char) : select want (chars s) = [] := by
  rw [select, Item.allWithin_chars, List.filterMap_eq_nil_iff]
  intro item member
  obtain ⟨c, -, rfl⟩ := List.mem_map.1 member
  exact dark c

/-! ## Selecting from trees -/

theorem select_leaf (depth : Nat) (name : String) (attributes : Attributes) (text : String) :
    select want [(Node.leaf name attributes text).laidOut depth] =
      (want (.element name attributes (chars text.toList))).toList := by
  rw [Node.laidOut, select_element, select_chars dark, List.append_nil]

theorem select_inside (depth : Nat) (children : List Node) :
    select want (Node.inside depth children) =
      select want (Node.laidOutAll (depth + 1) children) := by
  have newline : select want [.char '\n'] = [] := select_chars dark ['\n']
  rw [Node.inside, select_cons, newline, select_append, select_chars dark, List.append_nil,
    List.nil_append]

theorem select_laidOutAll_cons (depth : Nat) (node : Node) (rest : List Node) :
    select want (Node.laidOutAll depth (node :: rest)) =
      select want [node.laidOut depth] ++ select want (Node.laidOutAll depth rest) := by
  have newline : select want [.char '\n'] = [] := select_chars dark ['\n']
  rw [Node.laidOutAll, select_append, select_chars dark, List.nil_append, select_cons,
    select_cons (.char '\n'), newline, List.nil_append]

theorem select_laidOutAll_singleton (depth : Nat) (node : Node) :
    select want (Node.laidOutAll depth [node]) = select want [node.laidOut depth] := by
  rw [select_laidOutAll_cons dark, Node.laidOutAll, select_nil, List.append_nil]

/-- In a document there is nothing beside its tree but line breaks. -/
theorem select_document (node : Node) :
    select want [.char '\n', node.laidOut 0, .char '\n'] = select want [node.laidOut 0] := by
  have newline : select want [.char '\n'] = [] := select_chars dark ['\n']
  rw [select_cons, newline, select_cons, newline, List.append_nil, List.nil_append]

theorem select_laidOutAll_append (depth : Nat) (xs ys : List Node) :
    select want (Node.laidOutAll depth (xs ++ ys)) =
      select want (Node.laidOutAll depth xs) ++ select want (Node.laidOutAll depth ys) := by
  induction xs with
  | nil => rfl
  | cons node xs ih =>
    rw [List.cons_append, select_laidOutAll_cons dark, select_laidOutAll_cons dark, ih,
      List.append_assoc]

mutual
/-- There is nothing to find in a tree of tags that are passed over. -/
theorem select_eq_nil {leaf element : String → Attributes → Prop} (leaves : PassesOver want leaf)
    (elements : PassesOver want element) (depth : Nat) {node : Node}
    (all : node.All leaf element fun _ => False) : select want [node.laidOut depth] = [] := by
  cases node with
  | leaf name attributes text =>
    rw [select_leaf dark, leaves name attributes _ all]
    rfl
  | comment text => exact absurd all id
  | element name attributes children =>
    obtain ⟨here, inside⟩ : element name attributes ∧ Node.AllIn leaf element _ children := all
    rw [Node.laidOut_element, select_element, elements name attributes _ here, select_inside dark,
      select_all_eq_nil leaves elements (depth + 1) inside]
    rfl

theorem select_all_eq_nil {leaf element : String → Attributes → Prop}
    (leaves : PassesOver want leaf) (elements : PassesOver want element) (depth : Nat)
    {nodes : List Node} (all : Node.AllIn leaf element (fun _ => False) nodes) :
    select want (Node.laidOutAll depth nodes) = [] := by
  cases nodes with
  | nil => rfl
  | cons node rest =>
    obtain ⟨here, there⟩ : node.All leaf element _ ∧ Node.AllIn leaf element _ rest := all
    rw [select_laidOutAll_cons dark, select_eq_nil leaves elements depth here,
      select_all_eq_nil leaves elements depth there]
    rfl
end

end Select

end MapStyle.Xml
