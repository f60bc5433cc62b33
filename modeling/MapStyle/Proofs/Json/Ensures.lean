import MapStyle.Proofs.Json.Representable

/-!
# Properties of what is decoded

A property of decoded values is shown reader by reader: for each way to build readers there is a
lemma that takes the property from the parts to the whole. The sources are values or terms, all of
whose numbers JSON can hold.
-/

namespace MapStyle.Json

variable {σ α β : Type} {Good : σ → Prop}

/-- A kind of sources with parts of the same kind, which show nothing that JSON cannot hold. -/
structure Tame [Source σ] (Good : σ → Prop) : Prop where
  inside : ∀ {part source : σ}, Good source → Inside part source → Good part
  scalar : ∀ {source : σ} {v : Scalar}, Good source → Source.shape source = .scalar v →
    v.Representable
  value : ∀ {source : σ} {json : Json}, Good source → Source.value? source = some json →
    json.Representable

theorem tame_json : Tame Json.Representable where
  inside {part source} good within := by
    cases source with
    | scalar v => exact within.elim
    | array items => exact representable_array.1 good part within
    | object members =>
      obtain ⟨key, member⟩ := within
      exact representable_object.1 good (key, part) member
  scalar {source v} good shown := by
    cases source with
    | scalar v =>
      obtain rfl := Shape.scalar.inj shown
      rwa [Representable] at good
    | array items => cases shown
    | object members => cases shown
  value good same := Option.some.inj same ▸ good

/-- The members of a term that can be read are among its members. -/
theorem Term.mem_readableMembers {members : List (Option String × Term)} {key : String}
    {value : Term} (member : (key, value) ∈ (readableMembers members).1) :
    (some key, value) ∈ members := by
  fun_induction readableMembers members with
  | case1 => cases member
  | case2 => cases member
  | case3 key' value' rest ih =>
    rcases List.mem_cons.1 member with first | later
    · obtain ⟨rfl, rfl⟩ := Prod.mk.inj first
      exact List.mem_cons_self
    · exact List.mem_cons_of_mem _ (ih later)

theorem tame_term : Tame Term.Representable where
  inside {part source} good within := by
    cases source with
    | scalar value => cases value <;> exact within.elim
    | broken => exact within.elim
    | array items closed => exact Term.representable_array.1 good part within
    | object members closed =>
      obtain ⟨key, member⟩ := within
      exact Term.representable_object.1 good (some key, part) (Term.mem_readableMembers member)
  scalar {source v} good shown := by
    cases source with
    | scalar value =>
      cases value with
      | none => cases shown
      | some w =>
        obtain rfl := Shape.scalar.inj shown
        exact Term.representable_scalar.1 good w rfl
    | broken => cases shown
    | array items closed => cases shown
    | object members closed => cases shown
  value := Term.representable_value

/-! ## Readers -/

/-- A reader makes only values with a property of good sources. -/
def Ensures (Good : σ → Prop) (read : Reader σ α) (P : α → Prop) : Prop :=
  ∀ source, Good source → ∀ a, read source = .ok a → P a

namespace Ensures

theorem any {read : Reader σ α} : Ensures Good read fun _ => True := fun _ _ _ _ => trivial

/-- A number that was read is finite: a whole one rounds to a double, and a double is one already. -/
theorem number [Source σ] (tame : Tame Good) :
    Ensures Good readNumber fun x => x.isFinite = true := by
  intro source good x decoded
  rw [readNumber] at decoded
  split at decoded
  · next n shown =>
    obtain rfl := Except.ok.inj decoded
    have bounds : Scalar.Representable (.int n) := tame.scalar good shown
    simp only [Scalar.Representable] at bounds
    exact Binary64.isFinite_ofInt (by omega)
  · next y shown =>
    obtain rfl := Except.ok.inj decoded
    exact tame.scalar good shown
  · cases decoded

theorem optional [Source σ] {read : Reader σ α} {P : α → Prop} (one : Ensures Good read P) :
    Ensures Good (readOptional read) fun o => ∀ a ∈ o, P a := by
  intro source good o decoded
  rw [readOptional] at decoded
  split at decoded
  · obtain rfl := Except.ok.inj decoded
    simp
  · obtain ⟨a, here, rfl⟩ := map_eq_ok.1 decoded
    simpa using one source good a here

theorem list [Source σ] (tame : Tame Good) {read : Reader σ α} {P : α → Prop}
    (one : Ensures Good read P) :
    Ensures Good (readList read) fun as => ∀ a ∈ as, P a := by
  intro source good as decoded
  obtain ⟨items, closed, shown, all⟩ := readList_forall₂ decoded
  have goodItems : ∀ item ∈ items, Good item := fun item member =>
    tame.inside good (by rw [Inside, shown]; exact member)
  clear shown decoded
  induction all with
  | nil => simp
  | cons first _ ih =>
    obtain ⟨here, later⟩ := List.forall_mem_cons.1 goodItems
    exact List.forall_mem_cons.2 ⟨one _ here _ first, ih later⟩

theorem field {name : String} {read : Reader σ β} {set : α → β → α} {P : β → Prop} {Q : α → Prop}
    (one : Ensures Good read P) (kept : ∀ record b, Q record → P b → Q (set record b))
    (record : α) (before : Q record) : Ensures Good ((field name read set).read record) Q := by
  intro source good a decoded
  obtain ⟨b, here, rfl⟩ := field_read_eq_ok.1 decoded
  exact kept record b before (one source good b here)

/-- A record has what the empty record has and every field keeps. -/
theorem record [Source σ] (tame : Tame Good) {format : RecordFormat σ α} {P : α → Prop}
    (start : P format.empty)
    (step : ∀ f ∈ format.fields, ∀ record, P record → Ensures Good (f.read record) P) :
    Ensures Good format.read P := by
  intro source good a decoded
  refine RecordFormat.read_invariant start (fun f known part within record a before ok => ?_) decoded
  exact step f known record before part (tame.inside good within) a ok

end Ensures

/-- What holds of everything read from tame terms holds of everything read from texts. -/
theorem decodeText_ensures {read : Reader Term α} {P : α → Prop}
    (one : Ensures Term.Representable read P) {text : String} {a : α}
    (decoded : decodeText read text = .ok a) : P a := by
  have good := Term.representable_ofText text
  rw [decodeText] at decoded
  generalize Term.ofText text = held at good decoded
  obtain ⟨term, alone⟩ := held
  obtain ⟨b, here, more⟩ := bind_eq_ok.1 decoded
  cases alone
  · cases more
  · obtain rfl := Except.ok.inj more
    exact one term good b here

end MapStyle.Json
