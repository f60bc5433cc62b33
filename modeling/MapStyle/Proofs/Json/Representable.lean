import MapStyle.Proofs.Json.Readers
import MapStyle.Proofs.Number.WholeNumbers

/-!
# What JSON can hold

JSON holds whole numbers of 64 bits and finite doubles, and no other numbers. Every text is read to
such values only. What readers make of them keeps a property if every reader on the way does;
`Ensures` says so for one reader, and there is one lemma for each way to build readers.
-/

namespace MapStyle

/-- A scalar that JSON can hold. -/
def Scalar.Representable : Scalar → Prop
  | .int n => -0x8000000000000000 ≤ n ∧ n < 0x10000000000000000
  | .float x => x.isFinite = true
  | _ => True

namespace Json

mutual
/-- A value whose numbers JSON can hold. -/
def Representable : Json → Prop
  | .scalar v => v.Representable
  | .array items => RepresentableItems items
  | .object members => RepresentableMembers members

/-- Items whose numbers JSON can hold. -/
def RepresentableItems : List Json → Prop
  | [] => True
  | item :: rest => item.Representable ∧ RepresentableItems rest

/-- Members whose numbers JSON can hold. -/
def RepresentableMembers : List (String × Json) → Prop
  | [] => True
  | (_, value) :: rest => value.Representable ∧ RepresentableMembers rest
end

theorem representable_array {items : List Json} :
    (Json.array items).Representable ↔ ∀ item ∈ items, item.Representable := by
  rw [Representable]
  induction items with
  | nil => simp [RepresentableItems]
  | cons item rest ih => simp [RepresentableItems, ih]

theorem representable_object {members : List (String × Json)} :
    (Json.object members).Representable ↔ ∀ member ∈ members, member.2.Representable := by
  rw [Representable]
  induction members with
  | nil => simp [RepresentableMembers]
  | cons member rest ih => simp [RepresentableMembers, ih]

/-- A member put at its place brings no number but its own. -/
theorem representable_insertMember {key : String} {value : Json} {members : List (String × Json)}
    (new : value.Representable) (old : (Json.object members).Representable) :
    (Json.object (insertMember key value members)).Representable := by
  rw [representable_object] at old ⊢
  induction members with
  | nil => simpa [insertMember] using new
  | cons member rest ih =>
    obtain ⟨first, later⟩ := List.forall_mem_cons.1 old
    rw [insertMember]
    split
    · exact List.forall_mem_cons.2 ⟨new, later⟩
    split
    · exact List.forall_mem_cons.2 ⟨new, old⟩
    · exact List.forall_mem_cons.2 ⟨first, ih later⟩

/-! ## Texts -/

namespace Token

/-- A token whose number JSON can hold. -/
def Representable : Token → Prop
  | .scalar value => ∀ v ∈ value, v.Representable
  | _ => True

theorem representable_floatScalar {x : Binary64} : ∀ v ∈ floatScalar x, v.Representable := by
  intro v made
  rw [floatScalar] at made
  split at made
  · next finite =>
    obtain rfl := Option.some.inj made
    exact finite
  · cases made

theorem representable_numberScalar {negative : Bool} {whole : List Char}
    {fraction : Option (List Char)} {exponent : Option Int} :
    ∀ v ∈ numberScalar negative whole fraction exponent, v.Representable := by
  intro v made
  unfold numberScalar at made
  split at made
  · simp only at made
    split at made
    · next small =>
      obtain rfl := Option.some.inj made
      simp only [Bool.and_eq_true, decide_eq_true_eq] at small
      simp only [Scalar.Representable]
      omega
    split at made
    · next small =>
      obtain rfl := Option.some.inj made
      simp only [Bool.and_eq_true, decide_eq_true_eq] at small
      simp only [Scalar.Representable]
      omega
    · exact representable_floatScalar v made
  · exact representable_floatScalar v made

theorem representable_number {s tail : List Char} {value : Option Scalar}
    (read : number? s = some (value, tail)) : ∀ v ∈ value, v.Representable := by
  have unsigned : ∀ {negative s}, unsigned? negative s = some (value, tail) →
      ∀ v ∈ value, v.Representable := by
    intro negative s read
    simp only [unsigned?, Option.bind_eq_bind, Option.bind_eq_some_iff, Prod.exists, Option.pure_def,
      Option.some.injEq, Prod.mk.injEq] at read
    obtain ⟨whole, _, -, fraction, _, -, exponent, _, -, rfl, -⟩ := read
    exact representable_numberScalar
  rw [number?.eq_def] at read
  split at read
  · exact unsigned read
  · exact unsigned read

theorem representable_next {c : Char} {rest tail : List Char} {token : Token}
    (read : next? c rest = some (token, tail)) : token.Representable := by
  unfold next? at read
  split at read
  case h_10 =>
    simp only [Option.map_eq_some_iff, Prod.mk.injEq, Prod.exists] at read
    obtain ⟨_, _, -, rfl, -⟩ := read
    trivial
  case h_11 =>
    simp only [Option.map_eq_some_iff, Prod.mk.injEq, Prod.exists] at read
    obtain ⟨_, _, found, rfl, -⟩ := read
    exact representable_number found
  all_goals
    obtain ⟨rfl, -⟩ := Prod.mk.inj (Option.some.inj read)
    simp [Representable, Scalar.Representable]

end Token

theorem representable_tokens (s : List Char) : ∀ token ∈ tokens s, token.Representable := by
  fun_induction tokens s with
  | case1 => simp
  | case2 c rest space ih => exact ih
  | case3 c rest notSpace none => simp [Token.Representable]
  | case4 c rest notSpace token tail found shorter ih =>
    exact List.forall_mem_cons.2 ⟨Token.representable_next found, ih⟩

/-! ## Terms -/

namespace Term

mutual
/-- A term whose numbers JSON can hold. -/
def Representable : Term → Prop
  | .scalar value => ∀ v ∈ value, v.Representable
  | .array items _ => RepresentableItems items
  | .object members _ => RepresentableMembers members
  | .broken => True

/-- Items whose numbers JSON can hold. -/
def RepresentableItems : List Term → Prop
  | [] => True
  | item :: rest => item.Representable ∧ RepresentableItems rest

/-- Members whose numbers JSON can hold. -/
def RepresentableMembers : List (Option String × Term) → Prop
  | [] => True
  | (_, value) :: rest => value.Representable ∧ RepresentableMembers rest
end

theorem representable_array {items : List Term} {closed : Bool} :
    (Term.array items closed).Representable ↔ ∀ item ∈ items, item.Representable := by
  rw [Representable]
  induction items with
  | nil => simp [RepresentableItems]
  | cons item rest ih => simp [RepresentableItems, ih]

theorem representable_object {members : List (Option String × Term)} {closed : Bool} :
    (Term.object members closed).Representable ↔ ∀ member ∈ members, member.2.Representable := by
  rw [Representable]
  induction members with
  | nil => simp [RepresentableMembers]
  | cons member rest ih => simp [RepresentableMembers, ih]

theorem representable_scalar {value : Option Scalar} :
    (Term.scalar value).Representable ↔ ∀ v ∈ value, v.Representable := by
  rw [Representable]

/-- A text has no number. -/
theorem representable_text (s : Option String) : (Term.scalar (s.map .string)).Representable := by
  rw [representable_scalar]
  intro v made
  obtain ⟨_, -, rfl⟩ := Option.map_eq_some_iff.1 made
  trivial

/-- The finished terms in an open part. -/
def Frame.terms : Frame → List Term
  | .array items => items
  | .object members _ => members.map Prod.snd

/-- The finished terms at a place. -/
def Place.terms : Place → List Term
  | .key members => members.map Prod.snd
  | .colon members _ => members.map Prod.snd
  | .behind term => [term]
  | _ => []

/-- All finished terms at a place and in the open parts around it have numbers that JSON can hold. -/
def Sound (place : Place) (frames : List Frame) : Prop :=
  (∀ t ∈ place.terms, t.Representable) ∧ ∀ frame ∈ frames, ∀ t ∈ frame.terms, t.Representable

theorem Frame.terms_array (items : List Term) : (Frame.array items).terms = items := rfl

theorem Frame.terms_object (members : List (Option String × Term)) (key : Option String) :
    (Frame.object members key).terms = members.map Prod.snd := rfl

/-- A token brings no number but its own. -/
theorem Sound.advance {place place' : Place} {frames frames' : List Frame} {token : Token}
    (old : Sound place frames) (new : token.Representable)
    (moved : Term.advance place frames token = some (place', frames')) : Sound place' frames' := by
  unfold Term.advance at moved
  split at moved
  case h_18 => cases moved
  all_goals
    obtain ⟨rfl, rfl⟩ := Prod.mk.inj (Option.some.inj moved)
    simp only [Sound, Place.terms, Token.Representable] at old new ⊢
    grind [Frame.terms_array, Frame.terms_object, representable_scalar, representable_array,
      representable_object, representable_text]

theorem representable_broken : broken.Representable := by
  rw [Representable]
  trivial

theorem representable_cut {frame : Frame} {last : Term}
    (inside : ∀ t ∈ frame.terms, t.Representable) (new : last.Representable) :
    (frame.cut last).Representable := by
  cases frame with
  | array items => grind [Frame.terms_array, Frame.cut, representable_array]
  | object members key => grind [Frame.terms_object, Frame.cut, representable_object]

theorem Sound.unfinished {place : Place} {frames : List Frame} (sound : Sound place frames) :
    place.unfinished.Representable := by
  obtain ⟨here, -⟩ := sound
  cases place with
  | value => exact representable_broken
  | firstItem => simp [Place.unfinished, representable_array]
  | firstKey => simp [Place.unfinished, representable_object]
  | behind term => exact here term List.mem_cons_self
  | key members => grind [Place.unfinished, Place.terms, representable_object]
  | colon members key =>
    grind [Place.unfinished, Place.terms, representable_object, representable_broken]

/-- Cutting open parts short brings no number. -/
theorem Sound.cutAt {place : Place} {frames : List Frame} (sound : Sound place frames) :
    (cutAt place frames).Representable := by
  have unfinished := sound.unfinished
  have outer := sound.2
  rw [Term.cutAt]
  generalize place.unfinished = term at unfinished
  clear sound
  induction frames generalizing term with
  | nil => exact unfinished
  | cons frame rest ih =>
    obtain ⟨here, outside⟩ := List.forall_mem_cons.1 outer
    exact ih outside (frame.cut term) (representable_cut here unfinished)

theorem Sound.ofTokensAt {place : Place} {frames : List Frame} {tokens : List Token}
    (sound : Sound place frames) (all : ∀ token ∈ tokens, token.Representable) :
    (ofTokensAt place frames tokens).1.Representable := by
  induction tokens generalizing place frames with
  | nil =>
    unfold Term.ofTokensAt
    split
    · exact sound.1 _ List.mem_cons_self
    · exact sound.cutAt
  | cons token rest ih =>
    obtain ⟨new, later⟩ := List.forall_mem_cons.1 all
    rw [Term.ofTokensAt]
    cases moved : Term.advance place frames token with
    | none => exact sound.cutAt
    | some next => exact ih (sound.advance new moved) later

/-- Whatever a text is, what is read of it has numbers that JSON can hold only. -/
theorem representable_ofText (text : String) : (ofText text).1.Representable :=
  Sound.ofTokensAt ⟨by simp [Place.terms], by simp⟩ (representable_tokens _)

/-! ## Values of terms -/

mutual
/-- The value of a term has the term's numbers. -/
theorem representable_value {term : Term} {depth : Nat} {json : Json}
    (sound : term.Representable) (made : term.value? depth = some json) : json.Representable := by
  match term with
  | .scalar value =>
    rw [value?] at made
    obtain ⟨v, here, rfl⟩ := Option.map_eq_some_iff.1 made
    exact representable_scalar.1 sound v here
  | .array items closed =>
    unfold value? at made
    split at made
    · obtain ⟨values, inside, rfl⟩ := Option.map_eq_some_iff.1 made
      exact Json.representable_array.2 (representable_itemValues sound inside)
    · cases made
  | .object members closed =>
    unfold value? at made
    split at made
    · obtain ⟨values, inside, rfl⟩ := Option.map_eq_some_iff.1 made
      exact representable_memberValues sound (Json.representable_object.2 (by simp)) inside
    · cases made
  | .broken => cases made

theorem representable_itemValues {items : List Term} {depth : Nat} {values : List Json}
    (sound : RepresentableItems items) (made : itemValues? depth items = some values) :
    ∀ value ∈ values, value.Representable := by
  match items with
  | [] =>
    obtain rfl := Option.some.inj made
    simp
  | item :: rest =>
    obtain ⟨here, later⟩ : item.Representable ∧ RepresentableItems rest := sound
    rw [itemValues?] at made
    obtain ⟨value, first, more⟩ := Option.bind_eq_some_iff.1 made
    obtain ⟨others, tail, done⟩ := Option.bind_eq_some_iff.1 more
    obtain rfl := Option.some.inj done
    exact List.forall_mem_cons.2
      ⟨representable_value here first, representable_itemValues later tail⟩

theorem representable_memberValues {members : List (Option String × Term)} {depth : Nat}
    {before after : List (String × Json)} (sound : RepresentableMembers members)
    (old : (Json.object before).Representable)
    (made : memberValues? depth members before = some after) :
    (Json.object after).Representable := by
  match members with
  | [] =>
    obtain rfl := Option.some.inj made
    exact old
  | (key, term) :: rest =>
    obtain ⟨here, later⟩ : term.Representable ∧ RepresentableMembers rest := sound
    rw [memberValues?] at made
    obtain ⟨name, -, more⟩ := Option.bind_eq_some_iff.1 made
    obtain ⟨value, first, next⟩ := Option.bind_eq_some_iff.1 more
    exact representable_memberValues later
      (representable_insertMember (representable_value here first) old) next
end

end Term

/-- The value that a text holds is one that JSON can hold. -/
theorem representable_ofText? {text : String} {json : Json} (made : ofText? text = some json) :
    json.Representable := by
  have sound := Term.representable_ofText text
  rw [ofText?] at made
  split at made
  · next term read =>
    rw [read] at sound
    exact Term.representable_value sound made
  · cases made

end Json

end MapStyle
