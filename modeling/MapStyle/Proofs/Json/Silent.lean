import MapStyle.Proofs.Json.Readers
import Mathlib.Data.List.Pairwise
import Mathlib.Logic.Relation

/-!
# Changes that readers do not notice

A schema says what a value is read as. An edit of a value that goes by its schema is silent if all
it does is to add a member that no field is read from, or to add or take away the null of a field
that is unset with it or without it, in any record inside the value. What fits a schema reads a
value and the edited one alike, faults included.
-/

namespace MapStyle.Json

variable {α β : Type}

/-- What a value is read as. -/
inductive Schema
  /-- A text, a number or a truth value. -/
  | leaf
  /-- A value, or null. -/
  | optional (inner : Schema)
  | list (item : Schema)
  /-- An object with these fields, or an array with the fields in this order. -/
  | record (fields : List (String × Schema))
  /-- An object read by the text that it has under a key. Of a kind that is not listed, it is kept
      as it is. -/
  | tagged (key : String) (kinds : List (String × Schema))

/-- Whether null stands for something unset. -/
def Schema.isOptional : Schema → Bool
  | .optional _ => true
  | _ => false

/-- One silent edit, somewhere inside a value. -/
inductive Edit : Schema → Json → Json → Prop
  | addUnknown {fields : List (String × Schema)} {before after : List (String × Json)}
      {key : String} (value : Json) (new : key ∉ (before ++ after).map Prod.fst)
      (unknown : fields.lookup key = none) :
    Edit (.record fields) (.object (before ++ after)) (.object (before ++ (key, value) :: after))
  | addNull {fields : List (String × Schema)} {before after : List (String × Json)} {key : String}
      {inner : Schema} (new : key ∉ (before ++ after).map Prod.fst)
      (unset : fields.lookup key = some (.optional inner)) :
    Edit (.record fields) (.object (before ++ after)) (.object (before ++ (key, null) :: after))
  | removeNull {fields : List (String × Schema)} {before after : List (String × Json)}
      {key : String} {inner : Schema} (alone : key ∉ (before ++ after).map Prod.fst)
      (unset : fields.lookup key = some (.optional inner)) :
    Edit (.record fields) (.object (before ++ (key, null) :: after)) (.object (before ++ after))
  | inMember {fields : List (String × Schema)} {before after : List (String × Json)} {key : String}
      {schema : Schema} {value value' : Json} (known : fields.lookup key = some schema)
      (inside : Edit schema value value') :
    Edit (.record fields) (.object (before ++ (key, value) :: after))
      (.object (before ++ (key, value') :: after))
  | inPosition {fields : List (String × Schema)} {before after : List Json} {name : String}
      {schema : Schema} {value value' : Json} (known : fields[before.length]? = some (name, schema))
      (inside : Edit schema value value') :
    Edit (.record fields) (.array (before ++ value :: after)) (.array (before ++ value' :: after))
  | inItem {item : Schema} {before after : List Json} {value value' : Json}
      (inside : Edit item value value') :
    Edit (.list item) (.array (before ++ value :: after)) (.array (before ++ value' :: after))
  | inOptional {inner : Schema} {value value' : Json} (inside : Edit inner value value') :
    Edit (.optional inner) value value'
  | inKind {key kind : String} {kinds : List (String × Schema)} {schema : Schema}
      {value value' : Json} (named : get? key value = some (string kind))
      (known : kinds.lookup kind = some schema) (inside : Edit schema value value') :
    Edit (.tagged key kinds) value value'

/-- A reader makes the same of a value and of what silent edits make of it. -/
def Follows (schema : Schema) (read : Reader Json α) : Prop :=
  ∀ value value', Edit schema value value' → read value = read value'

/-- However many silent edits there are. -/
theorem Follows.edited {schema : Schema} {read : Reader Json α} (follows : Follows schema read)
    {value value' : Json} (edited : Relation.ReflTransGen (Edit schema) value value') :
    read value = read value' := by
  induction edited with
  | refl => rfl
  | tail _ edit ih => exact ih.trans (follows _ _ edit)

/-! ## Values and lists -/

theorem Edit.ne_scalar {schema : Schema} {value value' : Json} (edit : Edit schema value value') :
    (∀ v, value ≠ .scalar v) ∧ ∀ v, value' ≠ .scalar v := by
  induction edit with
  | inOptional inside ih => exact ih
  | inKind named known inside ih => exact ih
  | addUnknown | addNull | removeNull | inMember | inPosition | inItem => simp

theorem follows_leaf (read : Reader Json α) : Follows .leaf read := by
  intro value value' edit
  cases edit

theorem readOptional_of_ne_scalar {read : Reader Json α} {value : Json}
    (filled : ∀ v, value ≠ .scalar v) : readOptional read value = (read value).map some := by
  cases value with
  | scalar v => exact absurd rfl (filled v)
  | array items => rfl
  | object members => rfl

theorem Follows.optional {schema : Schema} {read : Reader Json α} (follows : Follows schema read) :
    Follows (.optional schema) (readOptional read) := by
  intro value value' edit
  obtain ⟨before, after⟩ := edit.ne_scalar
  cases edit with
  | inOptional inside =>
    rw [readOptional_of_ne_scalar before, readOptional_of_ne_scalar after, follows _ _ inside]

theorem readItems_congr {read : Reader Json α} {value value' : Json}
    (same : read value = read value') (before after : List Json) :
    readItems read (before ++ value :: after) = readItems read (before ++ value' :: after) := by
  induction before with
  | nil => rw [List.nil_append, List.nil_append, readItems, readItems, same]
  | cons item before ih => rw [List.cons_append, List.cons_append, readItems, readItems, ih]

theorem Follows.list {schema : Schema} {read : Reader Json α} (follows : Follows schema read) :
    Follows (.list schema) (readList read) := by
  intro value value' edit
  cases edit with
  | @inItem item before after value value' inside =>
    have items := readItems_congr (follows _ _ inside) before after
    exact congrArg (fun read : Except Fault (List α) => read >>= fun as => pure as) items

/-! ## Records -/

/-- Null leaves a field of the record as it is. -/
def Field.Unset (f : Field Json α) (record : α) : Prop := f.read record null = .ok record

/-- Reading one field does not set the other. -/
def Field.Apart (f g : Field Json α) : Prop :=
  ∀ record value a, f.Unset record → g.read record value = .ok a → f.Unset a

/-- Reading neither of two fields sets the other. -/
structure Field.BothApart (f g : Field Json α) : Prop where
  apart : f.Apart g
  back : g.Apart f

instance : Std.Symm (@Field.BothApart α) := ⟨fun _ _ both => ⟨both.back, both.apart⟩⟩

/-- Fields are apart if their setters may change places. -/
theorem apart_of_comm {γ : Type} {name other : String} {read : Reader Json β}
    {readOther : Reader Json γ} {set : α → β → α} {setOther : α → γ → α}
    (comm : ∀ record b c, set (setOther record c) b = setOther (set record b) c) :
    (field name read set).BothApart (field other readOther setOther) := by
  constructor
  · intro record value a unset ok
    obtain ⟨b, none, kept⟩ := field_read_eq_ok.1 unset
    obtain ⟨c, -, rfl⟩ := field_read_eq_ok.1 ok
    exact field_read_eq_ok.2 ⟨b, none, by rw [comm, kept]⟩
  · intro record value a unset ok
    obtain ⟨c, none, kept⟩ := field_read_eq_ok.1 unset
    obtain ⟨b, -, rfl⟩ := field_read_eq_ok.1 ok
    exact field_read_eq_ok.2 ⟨c, none, by rw [← comm, kept]⟩

/-- A field is read as an entry of a schema says, and a field that may be null is unset in the
    record that reading begins with. -/
structure Field.Fits (empty : α) (entry : String × Schema) (f : Field Json α) : Prop where
  name : entry.1 = f.name
  follows : ∀ record, Follows entry.2 (f.read record)
  unset : entry.2.isOptional = true → f.Unset empty

/-- A format has the fields of a schema in their order, none of which must be there, and each can be
    read without setting another. -/
structure RecordFormat.Fits (fields : List (String × Schema)) (format : RecordFormat Json α) :
    Prop where
  each : List.Forall₂ (Field.Fits format.empty) fields format.fields
  apart : format.fields.Pairwise Field.BothApart
  required : format.required = []

section Fields

variable {name : String} {schema : Schema} {read : Reader Json β} {empty : α}

theorem fits_field {set : α → β → α} (follows : Follows schema read)
    (needed : schema.isOptional = false) : (field name read set).Fits empty (name, schema) where
  name := rfl
  follows record _ _ edit := congrArg (Except.map (set record)) (follows _ _ edit)
  unset optional := by rw [needed] at optional; cases optional

theorem fits_optional {set : α → Option β → α} (follows : Follows schema read)
    (unset : set empty none = empty) :
    (optionalField name read set).Fits empty (name, .optional schema) where
  name := rfl
  follows record _ _ edit := congrArg (Except.map (set record)) (follows.optional _ _ edit)
  unset _ := congrArg Except.ok unset

end Fields

section Members

variable {fields : List (String × Schema)} {format : RecordFormat Json α}

/-- What a key is read as is found in the schema and in the format alike. -/
theorem find?_of_fits {empty : α} {readers : List (Field Json α)}
    (each : List.Forall₂ (Field.Fits empty) fields readers) (key : String) :
    fields.lookup key = none ∧ readers.find? (·.name == key) = none ∨
      ∃ schema f, fields.lookup key = some schema ∧ readers.find? (·.name == key) = some f ∧
        f.Fits empty (key, schema) := by
  induction each with
  | nil => exact .inl ⟨rfl, rfl⟩
  | @cons entry f fields readers first _ ih =>
    obtain ⟨name, schema⟩ := entry
    obtain rfl : name = f.name := first.name
    rw [List.lookup_cons, List.find?_cons]
    by_cases here : f.name = key
    · subst here
      right
      exact ⟨schema, f, by simp, by simp, first⟩
    · have other : (key == f.name) = false := by simpa using Ne.symm here
      have other' : (f.name == key) = false := by simpa using here
      rw [other, other']
      exact ih

/-- Members are read one after the other. -/
theorem readMembers_append (readers : List (Field Json α)) (record : α) (seen : List String)
    (xs ys : List (String × Json)) :
    readMembers readers record seen (xs ++ ys) =
      readMembers readers record seen xs >>= fun (record, seen) =>
        readMembers readers record seen ys := by
  induction xs generalizing record seen with
  | nil => rfl
  | cons member xs ih =>
    obtain ⟨key, value⟩ := member
    rw [List.cons_append, readMembers, readMembers]
    cases readers.find? (·.name == key) with
    | none => exact ih record seen
    | some f =>
      simp only
      split
      · rfl
      · simp only [ih, bind_assoc]

/-- Which names have been seen matters only for the keys that follow. -/
theorem readMembers_seen (readers : List (Field Json α)) {members : List (String × Json)}
    {seen seen' : List String}
    (same : ∀ key ∈ members.map Prod.fst, key ∈ seen ↔ key ∈ seen') (record : α) :
    (readMembers readers record seen members).map Prod.fst =
      (readMembers readers record seen' members).map Prod.fst := by
  induction members generalizing record seen seen' with
  | nil => rfl
  | cons member members ih =>
    obtain ⟨key, value⟩ := member
    obtain ⟨here, later⟩ := List.forall_mem_cons.1 same
    rw [readMembers, readMembers]
    cases readers.find? (·.name == key) with
    | none => exact ih later record
    | some f =>
      have contains : seen.contains key = seen'.contains key := by
        rw [Bool.eq_iff_iff, List.contains_iff_mem, List.contains_iff_mem, here]
      simp only [contains]
      split
      · rfl
      · cases f.read record value with
        | error fault => rfl
        | ok next =>
          refine ih (fun k member => ?_) next
          rw [List.mem_cons, List.mem_cons, later k member]

/-- The names seen are those that had been, and keys. -/
theorem seen_of_readMembers {readers : List (Field Json α)} {members : List (String × Json)}
    {record a : α} {seen left : List String}
    (ok : readMembers readers record seen members = .ok (a, left)) {key : String}
    (member : key ∈ left) : key ∈ seen ∨ key ∈ members.map Prod.fst := by
  induction members generalizing record seen with
  | nil =>
    obtain ⟨-, rfl⟩ := Prod.mk.inj (Except.ok.inj ok)
    exact .inl member
  | cons first members ih =>
    obtain ⟨k, value⟩ := first
    rw [readMembers] at ok
    cases found : readers.find? (·.name == k) with
    | none =>
      rw [found] at ok
      exact (ih ok).imp_right (List.mem_cons_of_mem _)
    | some f =>
      simp only [found] at ok
      split at ok
      · cases ok
      · obtain ⟨next, -, more⟩ := bind_eq_ok.1 ok
        rcases ih more with old | later
        · rcases List.mem_cons.1 old with rfl | before
          · exact .inr List.mem_cons_self
          · exact .inl before
        · exact .inr (List.mem_cons_of_mem _ later)

theorem RecordFormat.Fits.read_object (fits : format.Fits fields) (members : List (String × Json)) :
    format.read (.object members) =
      (readMembers format.fields format.empty [] members).map Prod.fst := by
  simp only [RecordFormat.read, Source.shape, shape, fits.required]
  cases readMembers format.fields format.empty [] members <;> rfl

/-- Objects that begin alike are read alike if the rest is, from whatever was read before. -/
theorem RecordFormat.Fits.read_behind (fits : format.Fits fields)
    {before rest rest' : List (String × Json)}
    (same : ∀ record seen, readMembers format.fields format.empty [] before = .ok (record, seen) →
      (readMembers format.fields record seen rest).map Prod.fst =
        (readMembers format.fields record seen rest').map Prod.fst) :
    format.read (.object (before ++ rest)) = format.read (.object (before ++ rest')) := by
  rw [fits.read_object, fits.read_object, readMembers_append, readMembers_append]
  cases read : readMembers format.fields format.empty [] before with
  | error fault => rfl
  | ok made => exact same made.1 made.2 read

variable {before after : List (String × Json)} {key : String}

theorem RecordFormat.Fits.read_unknown (fits : format.Fits fields)
    (unknown : fields.lookup key = none) (value : Json) :
    format.read (.object (before ++ (key, value) :: after)) =
      format.read (.object (before ++ after)) := by
  refine fits.read_behind fun record seen _ => ?_
  rcases find?_of_fits fits.each key with ⟨-, none⟩ | ⟨schema, f, known, -⟩
  · rw [readMembers, none]
    rfl
  · rw [unknown] at known
    cases known

theorem RecordFormat.Fits.read_member (fits : format.Fits fields) {schema : Schema}
    {value value' : Json} (known : fields.lookup key = some schema)
    (inside : Edit schema value value') :
    format.read (.object (before ++ (key, value) :: after)) =
      format.read (.object (before ++ (key, value') :: after)) := by
  refine fits.read_behind fun record seen _ => ?_
  rcases find?_of_fits fits.each key with ⟨unknown, -⟩ | ⟨other, f, listed, found, fit⟩
  · rw [known] at unknown
    cases unknown
  · obtain rfl : schema = other := Option.some.inj (known.symm.trans listed)
    rw [readMembers, readMembers, found]
    simp only [fit.follows record _ _ inside]

/-- A null adds nothing to a record where its field is unset anyway: that field is still unset when
    the null is read, and no other member is read differently after it. -/
theorem RecordFormat.Fits.read_null (fits : format.Fits fields) {inner : Schema}
    (new : key ∉ (before ++ after).map Prod.fst)
    (known : fields.lookup key = some (.optional inner)) :
    format.read (.object (before ++ (key, null) :: after)) =
      format.read (.object (before ++ after)) := by
  rw [List.map_append, List.mem_append, not_or] at new
  refine fits.read_behind fun record seen read => ?_
  rcases find?_of_fits fits.each key with ⟨unknown, -⟩ | ⟨schema, f, listed, found, fit⟩
  · rw [known] at unknown
    cases unknown
  · obtain rfl : .optional inner = schema := Option.some.inj (known.symm.trans listed)
    have member := List.mem_of_find?_eq_some found
    have unset : f.Unset record := by
      refine readMembers_invariant (fun g inFormat m inBefore named a b => ?_) (fit.unset rfl) read
      have other : f ≠ g := by
        rintro rfl
        apply new.1
        rw [show key = m.1 from fit.name.trans named]
        exact List.mem_map_of_mem inBefore
      exact (fits.apart.forall member inFormat other).apart a m.2 b
    have fresh : key ∉ seen := by
      intro old
      rcases seen_of_readMembers read old with none | before
      · cases none
      · exact new.1 before
    have skip : readMembers format.fields record seen ((key, null) :: after) =
        readMembers format.fields record (key :: seen) after := by
      rw [readMembers, found]
      simp only [List.contains_iff_mem, fresh, if_false]
      rw [show f.read record null = .ok record from unset]
      rfl
    rw [skip]
    refine readMembers_seen _ (fun k later => ?_) record
    rw [List.mem_cons, or_iff_right]
    rintro rfl
    exact new.2 later

end Members

theorem readPositions_congr {value value' : Json} {before after : List Json}
    {readers : List (Field Json α)}
    (same : ∀ f, readers[before.length]? = some f →
      ∀ record, f.read record value = f.read record value')
    (record : α) :
    readPositions record readers (before ++ value :: after) =
      readPositions record readers (before ++ value' :: after) := by
  induction before generalizing readers record with
  | nil =>
    cases readers with
    | nil => rfl
    | cons f readers =>
      rw [List.nil_append, List.nil_append, readPositions, readPositions, same f rfl record]
  | cons item before ih =>
    cases readers with
    | nil => rfl
    | cons f readers =>
      rw [List.cons_append, List.cons_append, readPositions, readPositions]
      cases f.read record item with
      | error fault => rfl
      | ok next => exact ih same next

theorem fits_at {empty : α} {fields : List (String × Schema)} {readers : List (Field Json α)}
    (each : List.Forall₂ (Field.Fits empty) fields readers) {i : Nat} {entry : String × Schema}
    {f : Field Json α} (known : fields[i]? = some entry) (here : readers[i]? = some f) :
    f.Fits empty entry := by
  induction each generalizing i with
  | nil => simp at known
  | cons first _ ih =>
    cases i with
    | zero =>
      obtain rfl := Option.some.inj known
      obtain rfl := Option.some.inj here
      exact first
    | succ i => exact ih known here

theorem RecordFormat.Fits.read_array {fields : List (String × Schema)}
    {format : RecordFormat Json α} (fits : format.Fits fields) (items : List Json) :
    format.read (.array items) =
      readPositions format.empty format.fields items >>= fun made =>
        if made.2 = .gt then throw (.surplusItems items.length) else pure made.1 := by
  obtain ⟨name, empty, readers, required⟩ := format
  obtain rfl : required = [] := fits.required
  show readPositions empty readers items >>= _ = _
  cases readPositions empty readers items with
  | error fault => rfl
  | ok made =>
    obtain ⟨record, left⟩ := made
    cases left <;> rfl

/-- What fits the fields of a schema follows it. -/
theorem RecordFormat.Fits.follows {fields : List (String × Schema)} {format : RecordFormat Json α}
    (fits : format.Fits fields) : Follows (.record fields) format.read := by
  intro value value' edit
  cases edit with
  | addUnknown value new unknown => exact (fits.read_unknown unknown value).symm
  | addNull new unset => exact (fits.read_null new unset).symm
  | removeNull alone unset => exact fits.read_null alone unset
  | inMember known inside => exact fits.read_member known inside
  | @inPosition _ before after name schema value value' known inside =>
    have items : readPositions format.empty format.fields (before ++ value :: after) =
        readPositions format.empty format.fields (before ++ value' :: after) := by
      refine readPositions_congr (fun f here record => ?_) _
      exact (fits_at fits.each known here).follows record _ _ inside
    have length : (before ++ value :: after).length = (before ++ value' :: after).length := by
      rw [List.length_append, List.length_append, List.length_cons, List.length_cons]
    rw [fits.read_array, fits.read_array, items, length]

/-! ## Tags -/

theorem member?_other {key other : String} (differ : other ≠ key)
    (before after : List (String × Json)) (value : Json) :
    member? key (before ++ (other, value) :: after) = member? key (before ++ after) := by
  have skip : (other == key) = false := beq_eq_false_iff_ne.2 differ
  rw [member?, member?, List.find?_append, List.find?_append, List.find?_cons, skip]

theorem mem_keys_of_member? {key : String} {members : List (String × Json)} {value : Json}
    (here : member? key members = some value) : key ∈ members.map Prod.fst := by
  obtain ⟨member, found, -⟩ := Option.map_eq_some_iff.1 here
  have named : member.1 = key := by simpa using List.find?_some found
  exact named ▸ List.mem_map_of_mem (List.mem_of_find?_eq_some found)

/-- A silent edit of a record leaves alone what there is under a key that is no field. -/
theorem get?_of_edit {fields : List (String × Schema)} {key : String} {value value' tag : Json}
    (edit : Edit (.record fields) value value') (unknown : fields.lookup key = none)
    (tagged : get? key value = some tag) : get? key value' = some tag := by
  have differ : ∀ {other schema}, fields.lookup other = some schema → other ≠ key := by
    rintro other schema known rfl
    rw [unknown] at known
    cases known
  cases edit with
  | @addUnknown _ before after other value new _ =>
    have members : member? key (before ++ after) = some tag := tagged
    have fresh : other ≠ key := by
      rintro rfl
      exact new (mem_keys_of_member? members)
    exact (member?_other fresh before after value).trans members
  | @addNull _ before after other inner new known =>
    exact (member?_other (differ known) before after null).trans tagged
  | @removeNull _ before after other inner alone known =>
    exact (member?_other (differ known) before after null).symm.trans tagged
  | @inMember _ before after other schema value value' known inside =>
    have old := member?_other (differ known) before after value
    exact (member?_other (differ known) before after value').trans (old.symm.trans tagged)
  | inPosition known inside => cases tagged

end MapStyle.Json
