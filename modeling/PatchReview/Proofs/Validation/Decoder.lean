import PatchReview.Validation.Whole

-- Decoders that take a written form back.  Each way of putting decoders together keeps that law, so
-- a record obeys it as soon as its fields do.
namespace PatchReview.Validation

-- Wherever it stands, what is written is read as the value that it was written for.
def Decoder.Undoes {α : Type} (decoder : Decoder α) (write : α → Json) : Prop :=
  ∀ path a, decoder path (write a) = .valid a

theorem text_undoes : Decoder.Undoes text .string := fun _ _ => rfl

theorem whole_undoes : Decoder.Undoes whole .int := fun _ _ => rfl

theorem nullable_undoes {α : Type} {inner : Decoder α} {write : α → Json}
    (undoes : inner.Undoes write) (written : ∀ a, write a ≠ .null) :
    Decoder.Undoes (nullable inner) fun value => value.elim .null write := by
  intro path value
  cases value with
  | none => rfl
  | some a =>
    have inside := undoes path a
    simp only [Option.elim_some, nullable]
    split
    · rename_i null
      exact absurd null (written a)
    · rw [inside]
      rfl

theorem named_undoes {α : Type} [Named α] (known : ∀ a : α, Named.ofName? (Named.name a) = some a) :
    Decoder.Undoes (named α) fun a => .string (Named.name a) := by
  intro path a
  simp only [named, known]

theorem listItems_map {α : Type} {inner : Decoder α} {write : α → Json}
    (undoes : inner.Undoes write) (path : List Step) (place : Nat) (items : List α) :
    listItems inner path place (items.map write) = .valid items := by
  induction items generalizing place with
  | nil => rfl
  | cons item items ih =>
    simp only [List.map_cons, listItems, undoes _ item, ih]
    rfl

theorem list_undoes {α : Type} {inner : Decoder α} {write : α → Json}
    (undoes : inner.Undoes write) :
    Decoder.Undoes (list inner) fun items => .array (items.map write) :=
  fun path items => listItems_map undoes path 0 items

theorem fieldOr_found {α : Type} {absent : Option α} {name : Text} {inner : Decoder α}
    {write : α → Json} {entries : List (Text × Json)} {a : α} (undoes : inner.Undoes write)
    (found : Json.lookup name entries = some (write a)) (path : List Step) (whole : Json) :
    fieldOr absent name inner path entries whole = .valid a := by
  simp only [fieldOr, found, undoes _ a]

end PatchReview.Validation
