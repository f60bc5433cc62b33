import MapStyle.Proofs.Xml.ReadBack
import MapStyle.Xml.Call

/-!
# What any calls of a builder write

Calls may come in any order: a close with nothing open does nothing, and what is still open at the
end is closed then. Any sequence of calls describes a forest, `Call.forest`, and the finished
document is read back as just that forest. Main statement: `Builder.readForest_run`.
-/

namespace MapStyle.Xml

/-! ## The forest of calls -/

namespace Call

/-- The trees that calls describe, up to the first close that has nothing to close among them; then
    the trees up to the next such close, and so on. An element without a close holds all that comes
    after it. -/
def segments : List Call → List Node × List (List Node)
  | [] => ([], [])
  | .close :: calls => ([], (segments calls).1 :: (segments calls).2)
  | .leaf name attributes text :: calls =>
    (.leaf name attributes text :: (segments calls).1, (segments calls).2)
  | .number name x :: calls => (.number name x :: (segments calls).1, (segments calls).2)
  | .comment text :: calls => (.comment text :: (segments calls).1, (segments calls).2)
  | .openElement name attributes :: calls =>
    match (segments calls).2 with
    | [] => ([.element name attributes (segments calls).1], [])
    | siblings :: outer => (.element name attributes (segments calls).1 :: siblings, outer)

/-- The trees that calls describe. Where nothing is open, a close does not end anything. -/
def forest (calls : List Call) : List Node := (segments calls).1 ++ (segments calls).2.flatten

/-- A close too many, an element with a comment, and two elements that are not closed. -/
example :
    forest [.close, .openElement "a" [], .comment "b", .close, .close, .openElement "c" [],
        .leaf "d" [] "e", .openElement "f" []] =
      [.element "a" [] [.comment "b"],
       .element "c" [] [.leaf "d" [] "e", .element "f" [] []]] := rfl

/-- Whether a call uses names as names, and different ones for the attributes of a tag. -/
def isWellNamed : Call → Bool
  | .openElement name attributes => isTag name attributes
  | .leaf name attributes _ => isTag name attributes
  | .number name _ => isTag name []
  | .close => true
  | .comment _ => true

/-- Trees with nothing but names as names. -/
abbrev WellNamedAll (nodes : List Node) : Prop :=
  Node.AllIn (isTag · · = true) (isTag · · = true) (fun _ => True) nodes

theorem wellNamed_segments {calls : List Call} (named : ∀ call ∈ calls, call.isWellNamed = true) :
    WellNamedAll (segments calls).1 ∧ ∀ nodes ∈ (segments calls).2, WellNamedAll nodes := by
  induction calls with
  | nil => exact ⟨trivial, by simp [segments]⟩
  | cons call calls ih =>
    have here := named call List.mem_cons_self
    obtain ⟨first, others⟩ := ih fun other member => named other (List.mem_cons_of_mem _ member)
    cases call with
    | close =>
      refine ⟨trivial, ?_⟩
      intro nodes member
      rcases List.mem_cons.1 member with rfl | later
      · exact first
      · exact others nodes later
    | leaf name attributes text => exact ⟨⟨here, first⟩, others⟩
    | number name x => exact ⟨⟨here, first⟩, others⟩
    | comment text => exact ⟨⟨trivial, first⟩, others⟩
    | openElement name attributes =>
      rw [segments]
      cases behind : (segments calls).2 with
      | nil => exact ⟨⟨⟨here, first⟩, trivial⟩, by simp⟩
      | cons siblings outer =>
        rw [behind] at others
        obtain ⟨siblingsNamed, outerNamed⟩ := List.forall_mem_cons.1 others
        exact ⟨⟨⟨here, first⟩, siblingsNamed⟩, outerNamed⟩

theorem wellNamed_forest {calls : List Call} (named : ∀ call ∈ calls, call.isWellNamed = true) :
    WellNamedAll (forest calls) := by
  obtain ⟨first, others⟩ := wellNamed_segments named
  apply Node.allIn_append.2
  refine ⟨first, Node.allIn_iff.2 ?_⟩
  intro node member
  obtain ⟨nodes, known, inside⟩ := List.mem_flatten.1 member
  exact Node.allIn_iff.1 (others nodes known) node inside

end Call

/-! ## The text of calls -/

namespace Builder

/-- The lines that are still to come inside the open elements given: the trees here, then for each
    open element its end and the trees behind it. With nothing open, all trees stand in a row. -/
def linesInside : List String → List Node → List (List Node) → List Char
  | [], here, outer => Node.renderAll 0 (here ++ outer.flatten)
  | name :: names, here, [] =>
    Node.renderAll (names.length + 1) here ++ indented names.length (endTag name) ++
      linesInside names [] []
  | name :: names, here, siblings :: outer =>
    Node.renderAll (names.length + 1) here ++ indented names.length (endTag name) ++
      linesInside names siblings outer

theorem linesInside_cons (names : List String) (node : Node) (here : List Node)
    (outer : List (List Node)) :
    linesInside names (node :: here) outer =
      node.render names.length ++ linesInside names here outer := by
  cases names with
  | nil => rfl
  | cons name names =>
    cases outer <;>
      simp only [linesInside, Node.renderAll, List.length_cons, List.append_assoc]

/-- A tree that is written at once comes before those still to come. -/
theorem append_linesInside (b : Builder) (node : Node) (here : List Node)
    (outer : List (List Node)) :
    (b.append (node.render b.depth)).text ++ String.ofList (linesInside b.openElements here outer) =
      b.text ++ String.ofList (linesInside b.openElements (node :: here) outer) := by
  rw [linesInside_cons, String.ofList_append, ← String.append_assoc]
  rfl

/-- An element that is opened takes what comes before its close. -/
theorem linesInside_segments_open (names : List String) (name : String) (attributes : Attributes)
    (calls : List Call) :
    linesInside names (Call.segments (.openElement name attributes :: calls)).1
        (Call.segments (.openElement name attributes :: calls)).2 =
      indented names.length (startTag name attributes) ++
        linesInside (name :: names) (Call.segments calls).1 (Call.segments calls).2 := by
  rw [Call.segments]
  cases (Call.segments calls).2 <;>
    simp only [linesInside_cons, linesInside, Node.render, List.append_assoc]

theorem close_of_closed {b : Builder} (closed : b.openElements = []) : b.close = b := by
  rw [close, closed]

theorem close_of_open {b : Builder} {name : String} {names : List String}
    (inside : b.openElements = name :: names) :
    b.close = ⟨b.text ++ String.ofList (indented names.length (endTag name)), names⟩ := by
  rw [close, inside]
  rfl

theorem closeAll_text (b : Builder) :
    b.closeAll.text = b.text ++ String.ofList (linesInside b.openElements [] []) := by
  obtain ⟨text, names⟩ := b
  induction names generalizing text with
  | nil => simp [closeAll, linesInside, Node.renderAll]
  | cons name names ih =>
    have first := close_of_open (b := ⟨text, name :: names⟩) rfl
    have rest : closeAll ⟨text, name :: names⟩ = closeAll (close ⟨text, name :: names⟩) := by
      rw [first]
      exact congrArg (names.foldl fun b _ => b.close) first
    rw [rest, first, ih]
    simp only [linesInside, Node.renderAll, List.nil_append, String.ofList_append,
      String.append_assoc]

/-- What calls and the closes at the end write, whatever was written and opened before. -/
theorem run_closeAll_text (b : Builder) (calls : List Call) :
    (b.run calls).closeAll.text =
      b.text ++ String.ofList
        (linesInside b.openElements (Call.segments calls).1 (Call.segments calls).2) := by
  induction calls generalizing b with
  | nil => exact b.closeAll_text
  | cons call calls ih =>
    have rest : (b.run (call :: calls)).closeAll.text =
        ((b.call call).run calls).closeAll.text := rfl
    rw [rest, ih]
    cases call with
    | leaf name attributes text => exact b.append_linesInside (.leaf name attributes text) _ _
    | number name x => exact b.append_linesInside (.number name x) _ _
    | comment text => exact b.append_linesInside (.comment text) _ _
    | openElement name attributes =>
      rw [linesInside_segments_open, String.ofList_append, ← String.append_assoc]
      rfl
    | close =>
      cases inside : b.openElements with
      | nil =>
        rw [Builder.call, close_of_closed inside, inside]
        rfl
      | cons name names =>
        rw [Builder.call, close_of_open inside, Call.segments]
        simp only [linesInside, Node.renderAll, List.nil_append, String.ofList_append,
          String.append_assoc]

/-- A finished document holds the trees that the calls describe, one after the other. -/
theorem finish_run_empty (calls : List Call) :
    (empty.run calls).finish =
      declaration ++ String.ofList (Node.renderAll 0 (Call.forest calls)) := by
  rw [finish, run_closeAll_text]
  simp [empty, linesInside, Call.forest]

/-! ## What stays -/

theorem toList_prefix_append (s more : String) : s.toList <+: (s ++ more).toList := by
  rw [String.toList_append]
  exact List.prefix_append _ _

/-- A call writes behind what was written before. -/
theorem call_text (b : Builder) (call : Call) : b.text.toList <+: (b.call call).text.toList := by
  cases call with
  | openElement name attributes => exact toList_prefix_append _ _
  | leaf name attributes text => exact toList_prefix_append _ _
  | number name x => exact toList_prefix_append _ _
  | comment text => exact toList_prefix_append _ _
  | close =>
    cases inside : b.openElements with
    | nil =>
      have same : b.call .close = b := close_of_closed inside
      exact same.symm ▸ List.prefix_rfl
    | cons name names =>
      rw [Builder.call, close_of_open inside]
      exact toList_prefix_append _ _

theorem run_text (b : Builder) (calls : List Call) :
    b.text.toList <+: (b.run calls).text.toList := by
  induction calls generalizing b with
  | nil => exact List.prefix_rfl
  | cons call calls ih => exact (b.call_text call).trans (ih (b.call call))

theorem run_append (b : Builder) (earlier later : List Call) :
    b.run (earlier ++ later) = (b.run earlier).run later := List.foldl_append

/-- Finishing keeps what was written. -/
theorem finish_text (b : Builder) :
    (declaration ++ b.text).toList <+: b.finish.toList := by
  rw [finish, closeAll_text, ← String.append_assoc]
  exact toList_prefix_append _ _

end Builder

/-- The forest of a document with any number of trees. -/
theorem readForest_renderAll {nodes : List Node} (named : Call.WellNamedAll nodes) :
    readForest (Builder.declaration ++ String.ofList (Node.renderAll 0 nodes)) =
      some (.char '\n' :: Node.laidOutAll 0 nodes) := by
  have lines := Reading.readAll_renderAll (Reading.start.put [.char '\n']) 0 named []
  rw [List.append_nil, Reading.readAll_nil] at lines
  rw [readForest, String.toList_append, String.toList_ofList, declaration?_append, Option.bind_some,
    Reading.readAll_newline, lines]
  simp [Reading.forest?, Reading.put, Reading.start]

/-- Any calls with names as names give a document that is read to its end, as the forest that the
    calls describe: every text and every value of an attribute is the one that was passed in. No
    call changes what an earlier one wrote, not even the closes that finish the document; a close
    with nothing open does nothing. -/
theorem Builder.readForest_run (calls : List Call)
    (named : ∀ call ∈ calls, call.isWellNamed = true) :
    readForest (empty.run calls).finish =
        some (.char '\n' :: Node.laidOutAll 0 (Call.forest calls)) ∧
      ∀ earlier later, calls = earlier ++ later →
        (declaration ++ (empty.run earlier).text).toList <+: (empty.run calls).finish.toList ∧
          ((empty.run earlier).openElements = [] →
            empty.run (earlier ++ .close :: later) = empty.run calls) := by
  refine ⟨?_, ?_⟩
  · rw [finish_run_empty]
    exact readForest_renderAll (Call.wellNamed_forest named)
  · rintro earlier later rfl
    refine ⟨?_, ?_⟩
    · have written := ((empty.run earlier).run_text later)
      rw [← run_append] at written
      have finished := (empty.run (earlier ++ later)).finish_text
      rw [String.toList_append] at finished ⊢
      exact ((List.prefix_append_right_inj _).2 written).trans finished
    · intro closed
      rw [run_append, run_append]
      have ignored : (empty.run earlier).call .close = empty.run earlier := close_of_closed closed
      exact congrArg (run · later) ignored

/-- Calls with hostile texts: a close too many, and elements that are not closed. -/
def Call.hostile : List Call :=
  [.close, .openElement "a" [("x", "\x22>"), ("y", "&amp;")], .comment "--->",
   .leaf "b" [] "</a>]]>", .number "c" .nan, .close, .close, .openElement "d" [],
   .openElement "e" []]

theorem Builder.readForest_run_hostile :
    (∀ call ∈ Call.hostile, call.isWellNamed = true) ∧
      readForest (empty.run Call.hostile).finish =
        some (.char '\n' :: Node.laidOutAll 0
          [.element "a" [("x", "\x22>"), ("y", "&amp;")]
            [.comment "--->", .leaf "b" [] "</a>]]>", .number "c" .nan],
           .element "d" [] [.element "e" [] []]]) := by
  have named : ∀ call ∈ Call.hostile, call.isWellNamed = true := by decide
  exact ⟨named, (Builder.readForest_run Call.hostile named).1⟩

end MapStyle.Xml
