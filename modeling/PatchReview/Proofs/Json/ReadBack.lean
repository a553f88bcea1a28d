import PatchReview.Proofs.Json.Leaves

-- Reading is the other direction of writing.  A value written over several lines is read back as
-- itself, whatever follows it, unless it holds a number of too many digits; then it is refused.
namespace PatchReview.Json

-- Values that a document gives back as they are: no fractions, no half pairs of surrogates, no
-- object with a name twice, and no more than `room` arrays and objects inside each other.
inductive Plain : (room : Nat) → Json → Prop
  | null {room : Nat} : Plain room .null
  | bool {room : Nat} (value : Bool) : Plain room (.bool value)
  | int {room : Nat} (value : Int) : Plain room (.int value)
  | string {room : Nat} (value : Text) : Plain room (.string value)
  | array {room : Nat} {items : List Json} (inside : ∀ item ∈ items, Plain room item) :
      Plain (room + 1) (.array items)
  | object {room : Nat} {fields : List (Text × Json)} (distinct : (fields.map Prod.fst).Nodup)
      (inside : ∀ field ∈ fields, Plain room field.2) : Plain (room + 1) (.object fields)

mutual

-- The whole numbers in a value.
def ints : Json → List Int
  | int n => [n]
  | array items => itemInts items
  | object fields => fieldInts fields
  | _ => []

def itemInts : List Json → List Int
  | [] => []
  | item :: items => ints item ++ itemInts items

def fieldInts : List (Text × Json) → List Int
  | [] => []
  | (_, value) :: fields => ints value ++ fieldInts fields

end

-- How many digits a number takes up, where a minus sign may count as one.
def digitsOf (signCounts : Bool) (n : Int) : Nat :=
  (Text.ofNat n.natAbs).length + (signCounts && n < 0).toNat

-- None of the numbers is too long to be read.
def Readable (signCounts : Bool) (numbers : List Int) : Prop :=
  ∀ n ∈ numbers, digitsOf signCounts n ≤ Text.digitLimit

variable {signCounts : Bool}

theorem readable_append {first second : List Int} :
    Readable signCounts (first ++ second) ↔
      Readable signCounts first ∧ Readable signCounts second := by
  simp [Readable, or_imp, forall_and]

namespace Document

-- What comes of reading a value: it is found if its numbers can be read, and refused if not.
def Settles (signCounts : Bool) {α : Type} (numbers : List Int) (value : α) (rest : Text)
    (found : Reading α) : Prop :=
  (Readable signCounts numbers → found = .ok (value, rest)) ∧
    (¬ Readable signCounts numbers → ∃ flaw, found = .error flaw)

theorem Settles.found {α : Type} {value : α} {rest : Text} {found : Reading α}
    (same : found = .ok (value, rest)) : Settles signCounts [] value rest found :=
  ⟨fun _ => same, fun long => absurd (by simp [Readable]) long⟩

theorem Settles.map {α β : Type} {numbers : List Int} {value : α} {rest : Text}
    {found : Reading α} (settled : Settles signCounts numbers value rest found) (f : α → β) :
    Settles signCounts numbers (f value) rest (found.map fun (value, rest) => (f value, rest)) := by
  constructor
  · intro readable
    rw [settled.1 readable]
    rfl
  · intro long
    obtain ⟨flaw, refused⟩ := settled.2 long
    exact ⟨flaw, by rw [refused]; rfl⟩

theorem Settles.outcome {α : Type} {numbers : List Int} {value : α} {rest : Text}
    {found : Reading α} (settled : Settles signCounts numbers value rest found) :
    (Readable signCounts numbers ∧ found = .ok (value, rest)) ∨
      (¬ Readable signCounts numbers ∧ ∃ flaw, found = .error flaw) := by
  by_cases readable : Readable signCounts numbers
  · exact .inl ⟨readable, settled.1 readable⟩
  · exact .inr ⟨readable, settled.2 readable⟩

-- Numbers that were already read decide nothing, and one that was refused decides all.
theorem Settles.after {α : Type} {first second : List Int} {value : α} {rest : Text}
    {found : Reading α} (readable : Readable signCounts first)
    (settled : Settles signCounts second value rest found) :
    Settles signCounts (first ++ second) value rest found := by
  simpa [Settles, readable_append, readable] using settled

theorem Settles.refused {α : Type} {first second : List Int} {value : α} {rest : Text} {flaw : Flaw}
    (long : ¬ Readable signCounts first) :
    Settles signCounts (first ++ second) value rest (.error flaw) :=
  ⟨fun readable => absurd (readable_append.mp readable).1 long, fun _ => ⟨flaw, rfl⟩⟩

-- The first character of a written value.
def StartsValue (c : Char) : Prop := isSpace c = false ∧ c ≠ ']' ∧ c ≠ '}'

theorem startsValue_digit {c : Char} (digit : Text.isAsciiDigit c = true) : StartsValue c := by
  have bounds := Text.isAsciiDigit_bounds digit
  refine ⟨?_, ?_, ?_⟩
  · have : c ≠ ' ' ∧ c ≠ '\t' ∧ c ≠ '\n' ∧ c ≠ '\r' := by
      refine ⟨?_, ?_, ?_, ?_⟩ <;> rintro rfl <;> exact absurd bounds (by decide)
    simp [isSpace, this]
  · rintro rfl; exact absurd bounds (by decide)
  · rintro rfl; exact absurd bounds (by decide)

theorem ofInt_head (n : Int) : ∃ c more, Text.ofInt n = c :: more ∧ StartsValue c := by
  cases n with
  | ofNat n =>
    cases digits : Text.ofNat n with
    | nil => exact absurd digits (Text.ofNat_ne_nil n)
    | cons c more =>
      have digit : Text.isAsciiDigit c = true :=
        Text.isAsciiDigit_of_mem_ofNat (n := n) (by simp [digits])
      exact ⟨c, more, digits, startsValue_digit digit⟩
  | negSucc n => exact ⟨'-', _, rfl, by simp [StartsValue, isSpace]⟩

theorem indented_head {room : Nat} {value : Json} (plain : Plain room value) (depth : Nat) :
    ∃ c more, indented depth value = c :: more ∧ StartsValue c := by
  cases plain with
  | null => exact ⟨'n', _, by simp [indented]; rfl, by simp [StartsValue, isSpace]⟩
  | bool b =>
    cases b
    · exact ⟨'f', _, by simp [indented]; rfl, by simp [StartsValue, isSpace]⟩
    · exact ⟨'t', _, by simp [indented]; rfl, by simp [StartsValue, isSpace]⟩
  | int n => simpa only [indented] using ofInt_head n
  | string t => exact ⟨'"', _, by simp [indented]; rfl, by simp [StartsValue, isSpace]⟩
  | @array _ items _ =>
    cases items <;> exact ⟨'[', _, by simp [indented]; rfl, by simp [StartsValue, isSpace]⟩
  | @object _ fields _ _ =>
    cases fields <;> exact ⟨'{', _, by simp [indented]; rfl, by simp [StartsValue, isSpace]⟩

theorem settles_number (signCounts negative : Bool) (n : Nat) {rest : Text} (ends : EndsValue rest)
    (size : digitsOf signCounts (Text.signed negative n) =
      (Text.ofNat n).length + (signCounts && negative).toNat) :
    Settles signCounts [Text.signed negative n] (.int (Text.signed negative n)) rest
      (readNumber signCounts negative (Text.ofNat n ++ rest)) := by
  have fits : Readable signCounts [Text.signed negative n] ↔
      (Text.ofNat n).length ≤ Text.digitLimit - (signCounts && negative).toNat := by
    have sign : (signCounts && negative).toNat ≤ Text.digitLimit := by
      cases signCounts <;> cases negative <;> decide
    rw [Readable, List.forall_mem_singleton, size]
    omega
  constructor
  · intro readable
    exact readNumber_ofNat signCounts negative (fits.mp readable) ends
  · intro long
    exact readNumber_long signCounts negative (Nat.not_le.mp (mt fits.mpr long)) ends

theorem readValue_digit {c : Char} (digit : Text.isAsciiDigit c = true) (fuel room : Nat)
    (more : Text) :
    readValue signCounts (fuel + 1) room (c :: more) =
      readNumber signCounts false (c :: more) := by
  have bounds := Text.isAsciiDigit_bounds digit
  have other : c ≠ '"' ∧ c ≠ '[' ∧ c ≠ '{' ∧ c ≠ '-' := by
    refine ⟨?_, ?_, ?_, ?_⟩ <;> rintro rfl <;> exact absurd bounds (by decide)
  simp [readValue, readScalar, other, digit]

theorem readValue_minus {c : Char} (digit : Text.isAsciiDigit c = true) (fuel room : Nat)
    (more : Text) :
    readValue signCounts (fuel + 1) room ('-' :: c :: more) =
      readNumber signCounts true (c :: more) := by
  have bounds := Text.isAsciiDigit_bounds digit
  have other : c ≠ 'I' := by rintro rfl; exact absurd bounds (by decide)
  simp [readValue, readScalar, other]

theorem settles_int (signCounts : Bool) (n : Int) (fuel room : Nat) {rest : Text}
    (ends : EndsValue rest) :
    Settles signCounts [n] (.int n) rest
      (readValue signCounts (fuel + 1) room (Text.ofInt n ++ rest)) := by
  have leading (m : Nat) : ∃ c more, Text.ofNat m = c :: more ∧ Text.isAsciiDigit c = true := by
    cases digits : Text.ofNat m with
    | nil => exact absurd digits (Text.ofNat_ne_nil m)
    | cons c more =>
      exact ⟨c, more, rfl, Text.isAsciiDigit_of_mem_ofNat (n := m) (by simp [digits])⟩
  cases n with
  | ofNat n =>
    obtain ⟨c, more, digits, digit⟩ := leading n
    have value : Text.signed false n = Int.ofNat n := rfl
    have number := settles_number signCounts false n ends (by simp [value, digitsOf])
    rw [value, digits, List.cons_append] at number
    simpa [Text.ofInt, digits, readValue_digit digit] using number
  | negSucc n =>
    obtain ⟨c, more, digits, digit⟩ := leading (n + 1)
    have value : Text.signed true (n + 1) = Int.negSucc n := rfl
    have number := settles_number signCounts true (n + 1) ends (by simp [value, digitsOf])
    rw [value, digits, List.cons_append] at number
    simpa [Text.ofInt, digits, readValue_minus digit] using number

theorem readValue_literal (b : Bool) (fuel room : Nat) (rest : Text) :
    readValue signCounts (fuel + 1) room (writeBool b ++ rest) = .ok (.bool b, rest) := by
  cases b <;> rfl

theorem written_text (t rest : Text) :
    writeText plainChar t ++ rest = '"' :: (t.flatMap plainChar ++ '"' :: rest) := by
  simp [writeText]

theorem readValue_string (t : Text) (fuel room : Nat) (rest : Text) :
    readValue signCounts (fuel + 1) room (writeText plainChar t ++ rest) =
      .ok (.string t, rest) := by
  rw [written_text]
  simp [readValue, readText_writeText, Except.map]

theorem skipSpace_newline (depth : Nat) (text : Text) :
    skipSpace (newline depth ++ text) = skipSpace text := by
  have spaces : ∀ c ∈ newline depth, isSpace c = true := by
    intro c member
    rcases List.mem_cons.mp member with rfl | member
    · rfl
    · rw [List.eq_of_mem_replicate member]
      rfl
  exact List.dropWhile_append_of_pos spaces

theorem skipSpace_cons {c : Char} (solid : isSpace c = false) (text : Text) :
    skipSpace (c :: text) = c :: text := by
  simp [skipSpace, solid]

theorem put_new {name : Text} {done : List (Text × Json)} (value : Json)
    (new : name ∉ done.map Prod.fst) : put name value done = done ++ [(name, value)] := by
  induction done with
  | nil => rfl
  | cons field done ih =>
    obtain ⟨other, old⟩ := field
    simp only [List.map_cons, List.mem_cons, not_or] at new
    simp [put, ih new.2, Ne.symm new.1]

theorem written_array (depth : Nat) (item : Json) (items : List Json) (rest : Text) :
    indented depth (.array (item :: items)) ++ rest =
      '[' :: (newline (depth + 1) ++ (indented (depth + 1) item ++
        (indentedItems (depth + 1) items ++ (newline depth ++ ']' :: rest)))) := by
  simp [indented]

theorem written_object (depth : Nat) (name : Text) (value : Json) (fields : List (Text × Json))
    (rest : Text) :
    indented depth (.object ((name, value) :: fields)) ++ rest =
      '{' :: (newline (depth + 1) ++ (writeText plainChar name ++ (':' :: ' ' ::
        (indented (depth + 1) value ++
          (indentedFields (depth + 1) fields ++ (newline depth ++ '}' :: rest)))))) := by
  simp [indented]

theorem written_items (depth : Nat) (item : Json) (items : List Json) (rest : Text) :
    indentedItems depth (item :: items) ++ rest =
      ',' :: (newline depth ++ (indented depth item ++ (indentedItems depth items ++ rest))) := by
  simp [indentedItems]

theorem written_fields (depth : Nat) (name : Text) (value : Json) (fields : List (Text × Json))
    (rest : Text) :
    indentedFields depth ((name, value) :: fields) ++ rest =
      ',' :: (newline depth ++ (writeText plainChar name ++ (':' :: ' ' ::
        (indented depth value ++ (indentedFields depth fields ++ rest))))) := by
  simp [indentedFields]

-- Twice the length of a value is fuel enough for it, also with the brackets around it.
def ValueSettles (signCounts : Bool) (fuel : Nat) : Prop :=
  ∀ depth room value rest, Plain room value → EndsValue rest →
    2 * (indented depth value).length ≤ fuel →
    Settles signCounts value.ints value rest
      (readValue signCounts fuel room (indented depth value ++ rest))

def ItemsSettle (signCounts : Bool) (fuel : Nat) : Prop :=
  ∀ depth outer room item items rest, (∀ i ∈ item :: items, Plain room i) →
    2 * (indented depth item ++ indentedItems depth items).length + 1 ≤ fuel →
    Settles signCounts (itemInts (item :: items)) (item :: items) rest
      (readItems signCounts fuel (room + 1) (indented depth item ++
        (indentedItems depth items ++ (newline outer ++ ']' :: rest))))

def FieldsSettle (signCounts : Bool) (fuel : Nat) : Prop :=
  ∀ depth outer room name value fields done rest,
    ((done ++ (name, value) :: fields).map Prod.fst).Nodup →
    (∀ field ∈ (name, value) :: fields, Plain room field.2) →
    2 * (indented depth value ++ indentedFields depth fields).length + 1 ≤ fuel →
    Settles signCounts (fieldInts ((name, value) :: fields)) (done ++ (name, value) :: fields) rest
      (readFields signCounts fuel (room + 1) done (writeText plainChar name ++ (':' :: ' ' ::
        (indented depth value ++
          (indentedFields depth fields ++ (newline outer ++ '}' :: rest))))))

theorem endsValue_items (depth outer : Nat) (items : List Json) (rest : Text) :
    EndsValue (indentedItems depth items ++ (newline outer ++ rest)) := by
  cases items with
  | nil => simpa [indentedItems] using endsValue_newline outer rest
  | cons item items => simp [EndsValue, written_items]

theorem endsValue_fields (depth outer : Nat) (fields : List (Text × Json)) (rest : Text) :
    EndsValue (indentedFields depth fields ++ (newline outer ++ rest)) := by
  cases fields with
  | nil => simpa [indentedFields] using endsValue_newline outer rest
  | cons field fields =>
    obtain ⟨name, value⟩ := field
    simp [EndsValue, written_fields]

theorem readItems_refused {fuel room : Nat} {text : Text} {flaw : Flaw}
    (refused : readValue signCounts fuel room text = .error flaw) :
    readItems signCounts (fuel + 1) (room + 1) text = .error flaw := by
  simp [readItems, refused]

theorem readItems_last {fuel room : Nat} {text tail rest : Text} {item : Json}
    (found : readValue signCounts fuel room text = .ok (item, tail))
    (closed : skipSpace tail = ']' :: rest) :
    readItems signCounts (fuel + 1) (room + 1) text = .ok ([item], rest) := by
  simp [readItems, found, closed]

theorem readItems_next {fuel room : Nat} {text tail behind more : Text} {item : Json} {c : Char}
    (found : readValue signCounts fuel room text = .ok (item, tail))
    (comma : skipSpace tail = ',' :: behind)
    (opened : skipSpace behind = c :: more) (other : c ≠ ']') :
    readItems signCounts (fuel + 1) (room + 1) text =
      (readItems signCounts fuel (room + 1) (c :: more)).map
        fun (items, rest) => (item :: items, rest) := by
  simp [readItems, found, comma, opened, other]

theorem items_step {fuel : Nat} (values : ValueSettles signCounts fuel)
    (more : ItemsSettle signCounts fuel) :
    ItemsSettle signCounts (fuel + 1) := by
  intro depth outer room item items rest plain enough
  simp only [List.length_append] at enough
  have first := values depth room item _ (plain item (by simp))
    (endsValue_items depth outer items (']' :: rest)) (by omega)
  rcases first.outcome with ⟨readable, found⟩ | ⟨long, flaw, refused⟩
  · cases items with
    | nil =>
      have closed : skipSpace (indentedItems depth [] ++ (newline outer ++ ']' :: rest)) =
          ']' :: rest := by
        simp [indentedItems, skipSpace_newline, skipSpace_cons, isSpace]
      rw [readItems_last found closed]
      exact .after readable (.found rfl)
    | cons next items =>
      obtain ⟨c, tail, head, starts⟩ := indented_head (plain next (by simp)) depth
      have further := more depth outer room next items rest
        (fun i member => plain i (List.mem_cons_of_mem _ member))
        (by
          have same := congrArg List.length (written_items depth next items [])
          simp only [List.append_nil, List.length_cons, List.length_append] at same ⊢
          omega)
      have opened (after : Text) :
          skipSpace (newline depth ++ (indented depth next ++ after)) = c :: (tail ++ after) := by
        rw [skipSpace_newline, head, List.cons_append, skipSpace_cons starts.1]
      rw [written_items] at found ⊢
      rw [readItems_next found (skipSpace_cons rfl _) (opened _) starts.2.1]
      rw [head, List.cons_append] at further
      exact .after readable (further.map (item :: ·))
  · rw [readItems_refused refused]
    exact .refused long

-- A name and its colon are always read, so a field is refused for its value only.
theorem readFields_refused {fuel room : Nat} {name behind text : Text} {flaw : Flaw}
    {done : List (Text × Json)} {c : Char} (opened : skipSpace behind = c :: text)
    (refused : readValue signCounts fuel room (c :: text) = .error flaw) :
    readFields signCounts (fuel + 1) (room + 1) done (writeText plainChar name ++ (':' :: behind)) =
      .error flaw := by
  have colon : skipSpace (':' :: behind) = ':' :: behind := skipSpace_cons rfl _
  simp [written_text, readFields, readText_writeText, colon, opened, refused]

theorem readFields_last {fuel room : Nat} {name behind text tail rest : Text} {value : Json}
    {done : List (Text × Json)} {c : Char} (opened : skipSpace behind = c :: text)
    (found : readValue signCounts fuel room (c :: text) = .ok (value, tail))
    (closed : skipSpace tail = '}' :: rest) :
    readFields signCounts (fuel + 1) (room + 1) done (writeText plainChar name ++ (':' :: behind)) =
      .ok (put name value done, rest) := by
  have colon : skipSpace (':' :: behind) = ':' :: behind := skipSpace_cons rfl _
  simp [written_text, readFields, readText_writeText, colon, opened, found, closed]

theorem readFields_next {fuel room : Nat} {name behind text tail further more : Text} {value : Json}
    {done : List (Text × Json)} {c : Char} (opened : skipSpace behind = c :: text)
    (found : readValue signCounts fuel room (c :: text) = .ok (value, tail))
    (comma : skipSpace tail = ',' :: further) (quoted : skipSpace further = '"' :: more) :
    readFields signCounts (fuel + 1) (room + 1) done (writeText plainChar name ++ (':' :: behind)) =
      readFields signCounts fuel (room + 1) (put name value done) ('"' :: more) := by
  have colon : skipSpace (':' :: behind) = ':' :: behind := skipSpace_cons rfl _
  simp [written_text, readFields, readText_writeText, colon, opened, found, comma, quoted]

theorem fields_step {fuel : Nat} (values : ValueSettles signCounts fuel)
    (more : FieldsSettle signCounts fuel) :
    FieldsSettle signCounts (fuel + 1) := by
  intro depth outer room name value fields done rest distinct plain enough
  simp only [List.length_append] at enough
  have first := values depth room value _ (plain (name, value) (by simp))
    (endsValue_fields depth outer fields ('}' :: rest)) (by omega)
  have new : name ∉ done.map Prod.fst := by
    simp only [List.map_append, List.map_cons, List.nodup_append, List.mem_cons] at distinct
    exact fun member => distinct.2.2 name member name (.inl rfl) rfl
  obtain ⟨c, tail, head, starts⟩ := indented_head (plain (name, value) (by simp)) depth
  have opened (after : Text) :
      skipSpace (' ' :: (indented depth value ++ after)) = c :: (tail ++ after) := by
    rw [head, List.cons_append]
    exact skipSpace_cons starts.1 _
  rcases first.outcome with ⟨readable, found⟩ | ⟨long, flaw, refused⟩
  · rw [head, List.cons_append] at found
    cases fields with
    | nil =>
      have closed : skipSpace (indentedFields depth [] ++ (newline outer ++ '}' :: rest)) =
          '}' :: rest := by
        simp [indentedFields, skipSpace_newline, skipSpace_cons, isSpace]
      rw [readFields_last (opened _) found closed, put_new value new]
      exact .after readable (.found rfl)
    | cons field fields =>
      obtain ⟨nextName, next⟩ := field
      have further := more depth outer room nextName next fields (done ++ [(name, value)]) rest
        (by simpa using distinct) (fun i member => plain i (List.mem_cons_of_mem _ member))
        (by
          have same := congrArg List.length (written_fields depth nextName next fields [])
          simp only [List.append_nil, List.length_cons, List.length_append] at same ⊢
          omega)
      have quoted (after : Text) :
          skipSpace (newline depth ++ (writeText plainChar nextName ++ after)) =
            '"' :: (nextName.flatMap plainChar ++ '"' :: after) := by
        rw [skipSpace_newline, written_text]
        exact skipSpace_cons rfl _
      rw [written_fields] at found ⊢
      rw [readFields_next (opened _) found (skipSpace_cons rfl _) (quoted _), put_new value new,
        ← written_text]
      simpa [fieldInts] using Settles.after readable further
  · rw [head, List.cons_append] at refused
    rw [readFields_refused (opened _) refused]
    exact .refused long

theorem value_step {fuel : Nat} (items : ItemsSettle signCounts fuel)
    (fields : FieldsSettle signCounts fuel) :
    ValueSettles signCounts (fuel + 1) := by
  intro depth room value rest plain ends enough
  cases plain with
  | null => exact .found (by simp only [indented]; rfl)
  | bool b => exact .found (by simp only [indented]; exact readValue_literal b fuel room rest)
  | int n =>
    simp only [indented, ints]
    exact settles_int signCounts n fuel room ends
  | string t => exact .found (by simp only [indented]; exact readValue_string t fuel room rest)
  | @array room content inside =>
    cases content with
    | nil => exact .found (by simp only [indented]; rfl)
    | cons item more =>
      have further := items (depth + 1) depth room item more rest inside
        (by
          have same := congrArg List.length (written_array depth item more [])
          simp only [List.append_nil, List.length_cons, List.length_append] at same ⊢
          omega)
      obtain ⟨c, tail, head, starts⟩ := indented_head (inside item (by simp)) (depth + 1)
      rw [head, List.cons_append] at further
      rw [written_array, head, List.cons_append]
      have opened (after : Text) :
          skipSpace (newline (depth + 1) ++ (c :: after)) = c :: after := by
        rw [skipSpace_newline, skipSpace_cons starts.1]
      simpa [readValue, opened, starts.2.1, ints] using further.map Json.array
  | @object room content distinct inside =>
    cases content with
    | nil => exact .found (by simp only [indented]; rfl)
    | cons field more =>
      obtain ⟨name, value⟩ := field
      have further := fields (depth + 1) depth room name value more [] rest
        (by simpa using distinct) inside
        (by
          have same := congrArg List.length (written_object depth name value more [])
          simp only [List.append_nil, List.length_cons, List.length_append] at same ⊢
          omega)
      rw [written_text] at further
      rw [written_object, written_text]
      have opened (after : Text) :
          skipSpace (newline (depth + 1) ++ ('"' :: after)) = '"' :: after := by
        rw [skipSpace_newline, skipSpace_cons rfl]
      simpa [readValue, opened, ints] using further.map Json.object

theorem settle (signCounts : Bool) (fuel : Nat) :
    ValueSettles signCounts fuel ∧ ItemsSettle signCounts fuel ∧
      FieldsSettle signCounts fuel := by
  induction fuel with
  | zero =>
    refine ⟨?_, ?_, ?_⟩
    · intro depth room value rest plain ends enough
      obtain ⟨c, more, head, _⟩ := indented_head plain depth
      simp [head] at enough
    · intro depth outer room item items rest plain enough
      omega
    · intro depth outer room name value fields done rest distinct plain enough
      omega
  | succ fuel ih =>
    obtain ⟨values, items, fields⟩ := ih
    exact ⟨value_step items fields, items_step values items, fields_step values fields⟩

-- A whole document: what is written is read back, or refused for a number that is too long.
theorem settles_pretty (signCounts : Bool) {value : Json} (plain : Plain levelLimit value) :
    (Readable signCounts value.ints → read value.pretty signCounts = .ok value) ∧
      (¬ Readable signCounts value.ints → ∃ flaw, read value.pretty signCounts = .error flaw) := by
  obtain ⟨c, more, head, starts⟩ := indented_head plain 0
  have settled := (settle signCounts (2 * (value.pretty).length + 2)).1 0 levelLimit value [] plain
    endsValue_nil (by simp [pretty])
  have opened : skipSpace value.pretty = value.pretty := by
    rw [pretty, head, skipSpace_cons starts.1]
  rw [List.append_nil, ← pretty] at settled
  constructor
  · intro readable
    have nothing : skipSpace [] = [] := rfl
    simp [read, opened, settled.1 readable, nothing]
  · intro long
    obtain ⟨flaw, refused⟩ := settled.2 long
    exact ⟨flaw, by simp [read, opened, refused]⟩

end Document
end PatchReview.Json
