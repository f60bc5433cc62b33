import MapStyle.Json.Decode
import Mathlib.Data.List.Forall2
import Mathlib.Data.List.Nodup

/-!
# What decoding a value tells

When a reader succeeds on a JSON value, the value had the shape wanted, and each field of a record
holds what its own reader makes of the part under its key or at its position. A field without a part
holds what the empty record has.
-/

namespace MapStyle.Json

variable {σ α β γ : Type}

/-! ## Successful readers -/

theorem bind_eq_ok {x : Except Fault α} {f : α → Except Fault β} {b : β} :
    x >>= f = .ok b ↔ ∃ a, x = .ok a ∧ f a = .ok b := by
  cases x with
  | ok a => exact ⟨fun h => ⟨a, rfl, h⟩, fun ⟨_, rfl, h⟩ => h⟩
  | error fault =>
    constructor
    · intro h
      cases h
    · rintro ⟨_, h, _⟩
      cases h

theorem map_eq_ok {x : Except Fault α} {f : α → β} {b : β} :
    x.map f = .ok b ↔ ∃ a, x = .ok a ∧ f a = b := by
  cases x with
  | ok a => simp [Except.map]
  | error fault => simp [Except.map]

/-- Reading items succeeds exactly if reading each of them does. -/
theorem readItems_eq_ok {read : Reader σ α} {items : List σ} {as : List α} :
    readItems read items = .ok as ↔ List.Forall₂ (fun item a => read item = .ok a) items as := by
  induction items generalizing as with
  | nil =>
    rw [readItems, List.forall₂_nil_left_iff, Except.ok.injEq]
    exact eq_comm
  | cons item rest ih =>
    rw [readItems, List.forall₂_cons_left_iff, bind_eq_ok]
    constructor
    · rintro ⟨a, first, more⟩
      obtain ⟨tail, later, done⟩ := bind_eq_ok.1 more
      exact ⟨a, tail, first, ih.1 later, (Except.ok.inj done).symm⟩
    · rintro ⟨a, tail, first, later, rfl⟩
      exact ⟨a, first, bind_eq_ok.2 ⟨tail, ih.2 later, rfl⟩⟩

/-- A list comes item by item from an array. -/
theorem readList_forall₂ [Source σ] {read : Reader σ α} {source : σ} {as : List α}
    (decoded : readList read source = .ok as) :
    ∃ items closed, Source.shape source = .array items closed ∧
      List.Forall₂ (fun item a => read item = .ok a) items as := by
  rw [readList] at decoded
  cases seen : Source.shape source with
  | array items closed =>
    rw [seen] at decoded
    obtain ⟨bs, all, more⟩ := bind_eq_ok.1 decoded
    refine ⟨items, closed, rfl, readItems_eq_ok.1 (all.trans ?_)⟩
    cases closed
    · cases more
    · exact more
  | scalar value => simp [seen] at decoded
  | object members closed => simp [seen] at decoded
  | malformed => simp [seen] at decoded

theorem field_read_eq_ok {name : String} {read : Reader σ β} {set : α → β → α} {record a : α}
    {source : σ} :
    (field name read set).read record source = .ok a ↔
      ∃ b, read source = .ok b ∧ set record b = a :=
  map_eq_ok

/-! ## Invariants of records -/

/-- A source stands directly inside another. -/
def Inside [Source σ] (part source : σ) : Prop :=
  match Source.shape source with
  | .object members _ => ∃ key, (key, part) ∈ members
  | .array items _ => part ∈ items
  | _ => False

/-- What reading any field preserves holds of the record read from an object. -/
theorem readMembers_invariant [Source σ] {fields : List (Field σ α)} {members : List (String × σ)}
    {P : α → Prop}
    (step : ∀ f ∈ fields, ∀ member ∈ members, f.name = member.1 → ∀ record a, P record →
      f.read record member.2 = .ok a → P a)
    {record a : α} {seen left : List String} (start : P record)
    (decoded : readMembers fields record seen members = .ok (a, left)) : P a := by
  induction members generalizing record seen with
  | nil =>
    obtain ⟨rfl, -⟩ := Prod.mk.inj (Except.ok.inj decoded)
    exact start
  | cons member rest ih =>
    obtain ⟨key, value⟩ := member
    have later := fun record seen => @ih
      (fun f known m inRest => step f known m (List.mem_cons_of_mem _ inRest)) record seen
    rw [readMembers] at decoded
    cases found : fields.find? (·.name == key) with
    | none =>
      simp only [found] at decoded
      split at decoded
      · exact later record seen start decoded
      · cases decoded
    | some f =>
      simp only [found] at decoded
      split at decoded
      · cases decoded
      · obtain ⟨next, here, more⟩ := bind_eq_ok.1 decoded
        have named : f.name = key := by simpa using List.find?_some found
        have known := List.mem_of_find?_eq_some found
        exact later next _ (step f known (key, value) List.mem_cons_self named record next start here)
          more

/-- What reading any field preserves holds of the record read from an array. -/
theorem readPositions_invariant {fields : List (Field σ α)} {items : List σ} {P : α → Prop}
    (step : ∀ f ∈ fields, ∀ item ∈ items, ∀ record a, P record →
      f.read record item = .ok a → P a)
    {record a : α} {left : Ordering} (start : P record)
    (decoded : readPositions record fields items = .ok (a, left)) : P a := by
  induction fields generalizing record items with
  | nil =>
    cases items <;> obtain ⟨rfl, -⟩ := Prod.mk.inj (Except.ok.inj decoded) <;> exact start
  | cons f fields ih =>
    cases items with
    | nil =>
      obtain ⟨rfl, -⟩ := Prod.mk.inj (Except.ok.inj decoded)
      exact start
    | cons item rest =>
      obtain ⟨next, here, more⟩ := bind_eq_ok.1 decoded
      refine ih (fun g known i inRest => ?_) ?_ more
      · exact step g (List.mem_cons_of_mem _ known) i (List.mem_cons_of_mem _ inRest)
      · exact step f List.mem_cons_self item List.mem_cons_self record next start here

/-- A record comes from an object or an array, field by field. -/
theorem RecordFormat.read_eq_ok [Source σ] {format : RecordFormat σ α} {source : σ} {a : α}
    (decoded : format.read source = .ok a) :
    (∃ members closed left, Source.shape source = .object members closed ∧
        readMembers format.fields format.empty [] members = .ok (a, left)) ∨
      ∃ items closed left, Source.shape source = .array items closed ∧
        readPositions format.empty format.fields items = .ok (a, left) := by
  rw [RecordFormat.read] at decoded
  cases seen : Source.shape source with
  | scalar value => simp [seen] at decoded
  | malformed => simp [seen] at decoded
  | object members closed =>
    left
    rw [seen] at decoded
    obtain ⟨⟨record, names⟩, here, more⟩ := bind_eq_ok.1 decoded
    refine ⟨members, closed, names, rfl, here.trans ?_⟩
    cases closed
    · cases more
    · simp only [Bool.not_true, Bool.false_eq_true, if_false] at more
      split at more
      · cases more
      · obtain rfl := Except.ok.inj more
        rfl
  | array items closed =>
    right
    rw [seen] at decoded
    obtain ⟨⟨record, rest⟩, here, more⟩ := bind_eq_ok.1 decoded
    refine ⟨items, closed, rest, rfl, here.trans ?_⟩
    cases closed
    · cases more
    · simp only [Bool.not_true, Bool.false_eq_true, if_false] at more
      cases rest with
      | eq =>
        obtain rfl := Except.ok.inj more
        rfl
      | gt => cases more
      | lt =>
        simp only at more
        split at more
        · obtain rfl := Except.ok.inj more
          rfl
        · cases more

/-- What the empty record has and reading any field preserves holds of every record read. -/
theorem RecordFormat.read_invariant [Source σ] {format : RecordFormat σ α} {source : σ} {P : α → Prop}
    (start : P format.empty)
    (step : ∀ f ∈ format.fields, ∀ part, Inside part source → ∀ record a, P record →
      f.read record part = .ok a → P a)
    {a : α} (decoded : format.read source = .ok a) : P a := by
  rcases read_eq_ok decoded with ⟨members, _, _, seen, read⟩ | ⟨items, _, _, seen, read⟩
  · refine readMembers_invariant (fun f known member here _ => ?_) start read
    exact step f known member.2 (by rw [Inside, seen]; exact ⟨member.1, here⟩)
  · refine readPositions_invariant (fun f known item here => ?_) start read
    exact step f known item (by rw [Inside, seen]; exact here)

/-! ## The fields of records -/

theorem shape_eq_object {json : Json} {members : List (String × Json)} {closed : Bool}
    (seen : Source.shape json = .object members closed) : json = .object members ∧ closed = true := by
  cases json with
  | scalar value => cases seen
  | array items => cases seen
  | object others =>
    obtain ⟨rfl, rfl⟩ := Shape.object.inj seen
    exact ⟨rfl, rfl⟩

theorem shape_eq_array {json : Json} {items : List Json} {closed : Bool}
    (seen : Source.shape json = .array items closed) : json = .array items ∧ closed = true := by
  cases json with
  | scalar value => cases seen
  | object members => cases seen
  | array others =>
    obtain ⟨rfl, rfl⟩ := Shape.array.inj seen
    exact ⟨rfl, rfl⟩

/-- The part of a record under a key of an object or at a position of an array. -/
def part (key : String) (position : Nat) : Json → Option Json
  | .object members => member? key members
  | .array items => items[position]?
  | .scalar _ => none

/-- The items of an array; anything else has none. -/
def itemsOf : Option Json → List Json
  | some (.array items) => items
  | _ => []

/-- How a record keeps one of its fields: reading the field sets what is seen of it, and reading
    another leaves that alone. -/
structure Keeps (format : RecordFormat Json α) (name : String) (position : Nat)
    (read : Reader Json β) (view : α → β) : Prop where
  here : ∃ set, format.fields[position]? = some (field name read set) ∧
    ∀ record b, view (set record b) = b
  distinct : (format.fields.map Field.name).Nodup
  apart : ∀ f ∈ format.fields, f.name ≠ name →
    ∀ record json a, f.read record json = .ok a → view a = view record

/-- Reading another field through its setter leaves what is seen alone. -/
theorem field_apart {name : String} {read : Reader Json β} {set : α → β → α} {view : α → γ}
    (kept : ∀ record b, view (set record b) = view record) (record : α) (json : Json) (a : α)
    (ok : (field name read set).read record json = .ok a) : view a = view record := by
  obtain ⟨b, -, rfl⟩ := field_read_eq_ok.1 ok
  exact kept record b

/-- What is seen of a field: what its reader makes of its part, or else the default. -/
def Yields (read : Reader Json β) (standard : β) (part : Option Json) (value : β) : Prop :=
  match part with
  | some json => read json = .ok value
  | none => value = standard

section Keeping

variable {format : RecordFormat Json α} {name : String} {position : Nat} {read : Reader Json β}
  {view : α → β}

/-- Reading members in order sets the field at its key, which occurs once at most. -/
theorem Keeps.readMembers (keeps : Keeps format name position read view) {record a : α}
    {seen left : List String} {members : List (String × Json)}
    (decoded : readMembers format.fields record seen members = .ok (a, left)) :
    (name ∈ seen → member? name members = none) ∧
      Yields read (view record) (member? name members) (view a) := by
  obtain ⟨set, placed, sets⟩ := keeps.here
  have known := List.mem_of_getElem? placed
  induction members generalizing record seen with
  | nil =>
    obtain ⟨rfl, -⟩ := Prod.mk.inj (Except.ok.inj decoded)
    exact ⟨fun _ => rfl, rfl⟩
  | cons member rest ih =>
    obtain ⟨key, value⟩ := member
    have skip : key ≠ name → member? name ((key, value) :: rest) = member? name rest := by
      intro other
      simp [member?, other]
    rw [Json.readMembers] at decoded
    cases found : format.fields.find? (·.name == key) with
    | none =>
      rw [found] at decoded
      have other : key ≠ name := by
        rintro rfl
        simpa [field] using List.find?_eq_none.1 found _ known
      rw [skip other]
      exact ih decoded
    | some f =>
      have named : f.name = key := by simpa using List.find?_some found
      have inside := List.mem_of_find?_eq_some found
      simp only [found] at decoded
      split at decoded
      · cases decoded
      · next fresh =>
        obtain ⟨next, first, more⟩ := bind_eq_ok.1 decoded
        obtain ⟨once, later⟩ := ih more
        by_cases same : key = name
        · subst same
          -- the field of this name is the one that the format keeps
          obtain rfl := List.inj_on_of_nodup_map keeps.distinct inside known named
          obtain ⟨b, ok, rfl⟩ := field_read_eq_ok.1 first
          rw [once List.mem_cons_self, sets] at later
          have here : member? key ((key, value) :: rest) = some value := by simp [member?]
          refine ⟨fun before => absurd (List.contains_iff_mem.2 before) fresh, ?_⟩
          rw [here, show view a = b from later]
          exact ok
        · rw [skip same]
          have unchanged := keeps.apart f inside (fun h => same (named.symm.trans h)) record _ _ first
          rw [← unchanged]
          exact ⟨fun before => once (List.mem_cons_of_mem _ before), later⟩

/-- Reading an array sets the field at its position. -/
theorem readPositions_yields {set : α → β → α} {fields : List (Field Json α)}
    (placed : fields[position]? = some (field name read set))
    (sets : ∀ record b, view (set record b) = b) (distinct : (fields.map Field.name).Nodup)
    (apart : ∀ f ∈ fields, f.name ≠ name →
      ∀ record json a, f.read record json = .ok a → view a = view record)
    {record a : α} {items : List Json} {left : Ordering}
    (decoded : readPositions record fields items = .ok (a, left)) :
    Yields read (view record) items[position]? (view a) := by
  induction fields generalizing record position items with
  | nil => simp at placed
  | cons f fields ih =>
    obtain ⟨fresh, distinct⟩ := List.nodup_cons.1 distinct
    cases items with
    | nil =>
      obtain ⟨rfl, -⟩ := Prod.mk.inj (Except.ok.inj decoded)
      exact rfl
    | cons item rest =>
      obtain ⟨next, first, more⟩ := bind_eq_ok.1 decoded
      cases position with
      | zero =>
        obtain rfl : f = field name read set := by simpa using placed
        obtain ⟨b, value, rfl⟩ := field_read_eq_ok.1 first
        -- none of the fields behind this one touches it
        have kept : view a = b := by
          refine readPositions_invariant (P := fun r => view r = b) ?_ (sets record b) more
          intro g known item _ record a before ok
          rw [apart g (List.mem_cons_of_mem _ known) ?_ record item a ok, before]
          intro same
          exact fresh (List.mem_map.2 ⟨g, known, same⟩)
        show read item = .ok (view a)
        rw [kept, value]
      | succ k =>
        have other : f.name ≠ name := by
          intro same
          exact fresh (List.mem_map.2 ⟨_, List.mem_of_getElem? placed, same.symm⟩)
        rw [← apart f List.mem_cons_self other record item next first]
        exact ih placed distinct (fun g known => apart g (List.mem_cons_of_mem _ known)) more

/-- A field of a record that was read is what its reader makes of its part. -/
theorem Keeps.yields (keeps : Keeps format name position read view) {json : Json} {a : α}
    (decoded : format.read json = .ok a) :
    Yields read (view format.empty) (json.part name position) (view a) := by
  rcases RecordFormat.read_eq_ok decoded with ⟨members, _, left, seen, ok⟩ | ⟨items, _, left, seen, ok⟩
  · obtain rfl : json = .object members := (shape_eq_object seen).1
    exact (keeps.readMembers ok).2
  · obtain rfl : json = .array items := (shape_eq_array seen).1
    obtain ⟨set, placed, sets⟩ := keeps.here
    exact readPositions_yields placed sets keeps.distinct keeps.apart ok

/-- A list in a field of a record comes item by item from the items of its part. -/
theorem Keeps.forall₂ {read : Reader Json β} {view : α → List β}
    (keeps : Keeps format name position (readList read) view) (none : view format.empty = [])
    {json : Json} {a : α} (decoded : format.read json = .ok a) :
    List.Forall₂ (fun item b => read item = .ok b) (itemsOf (json.part name position)) (view a) := by
  have yields := keeps.yields decoded
  cases found : json.part name position with
  | none =>
    rw [found, none] at yields
    rw [show view a = [] from yields]
    exact .nil
  | some source =>
    rw [found] at yields
    obtain ⟨items, _, seen, all⟩ := readList_forall₂ yields
    obtain rfl := (shape_eq_array seen).1
    exact all

end Keeping

end MapStyle.Json
