import PatchReview.Proofs.Pattern.Denotes
import PatchReview.Proofs.Pattern.Replacing

-- Which match is found.  No match starts further to the left than the first one, and a run inside a
-- match goes as far as what stands behind it allows.
namespace PatchReview

-- A run and where it starts determine where it ends.
theorem Cursor.Passes.end_eq {c stop other : Cursor} {run : Text} (passed : c.Passes run stop)
    (further : c.Passes run other) : stop = other := by
  obtain ⟨before, after, offset⟩ := stop
  obtain ⟨behind, ahead, place⟩ := other
  obtain ⟨whole, rfl, rfl⟩ := passed
  obtain ⟨wholeToo, rfl, rfl⟩ := further
  have same : after = ahead := List.append_cancel_left (whole.symm.trans wholeToo)
  rw [same]

-- A text starts in one way only with characters of one kind and then none of it.
theorem kind_unique {kind : Char → Prop} {run way rest back : Text}
    (same : run ++ rest = way ++ back) (inside : ∀ x ∈ run, kind x) (insideToo : ∀ x ∈ way, kind x)
    (ends : ∀ x ∈ rest.head?, ¬kind x) (endsToo : ∀ x ∈ back.head?, ¬kind x) : run = way := by
  induction run generalizing way with
  | nil =>
    cases way with
    | nil => rfl
    | cons x way =>
      rw [List.nil_append] at same
      rw [same] at ends
      exact absurd (insideToo x List.mem_cons_self) (ends x rfl)
  | cons x run ih =>
    obtain ⟨first, later⟩ := List.forall_mem_cons.mp inside
    cases way with
    | nil =>
      rw [List.nil_append] at same
      rw [← same] at endsToo
      exact absurd first (endsToo x rfl)
    | cons y way =>
      obtain ⟨rfl, behind⟩ := List.cons.inj same
      rw [ih behind later (List.forall_mem_cons.mp insideToo).2]

namespace Pattern

theorem Spans.mono {p : Pattern} {c stop : Cursor} (span : p.Spans c stop) :
    c.offset ≤ stop.offset := by
  obtain ⟨run, passed⟩ := span.passes
  exact passed.2.2 ▸ Nat.le_add_right _ _

-- There is one position at an offset.
theorem Spans.eq_of_offset {p q : Pattern} {c stop other : Cursor} (span : p.Spans c stop)
    (spanToo : q.Spans c other) (same : stop.offset = other.offset) : stop = other := by
  obtain ⟨run, passed⟩ := span.passes
  obtain ⟨way, further⟩ := spanToo.passes
  have long : run.length = way.length := by
    have one := passed.2.2
    have two := further.2.2
    omega
  obtain ⟨rfl, -⟩ := List.append_inj (passed.1.symm.trans further.1) long
  exact passed.end_eq further

-- A run ends as far on as it may with what follows still going through.
theorem tryRun_furthest {α : Type} {set : CharSet} {least : Nat} {most : Option Nat}
    {before after : Text} {offset : Nat} {next : Cursor → Option α} {a : α}
    (found : tryRun set least most before after offset next = .some a) :
    ∃ stop, (many set least most).Spans ⟨before, after, offset⟩ stop ∧ next stop = .some a ∧
      ∀ other, (many set least most).Spans ⟨before, after, offset⟩ other →
        (next other).isSome = true → other.offset ≤ stop.offset := by
  induction after generalizing least most before offset with
  | nil =>
    unfold tryRun at found
    obtain ⟨stop, span, accepted⟩ := exists_spans_here found
    refine ⟨stop, span, accepted, ?_⟩
    intro other further _
    rcases many_spans.mp further with ⟨-, rfl⟩ | ⟨x, rest, same, -⟩
    · exact span.mono
    · cases same
  | cons c rest ih =>
    rw [tryRun_cons] at found
    -- What goes on from here goes on behind the character, or stays.
    have here (stays : ∀ other, (many set least most).Spans ⟨before, c :: rest, offset⟩ other →
        (next other).isSome = true → other.offset ≤ offset)
        (found : (if least = 0 then next ⟨before, c :: rest, offset⟩ else none) = .some a) :
        ∃ stop, (many set least most).Spans ⟨before, c :: rest, offset⟩ stop ∧
          next stop = .some a ∧ ∀ other,
            (many set least most).Spans ⟨before, c :: rest, offset⟩ other →
              (next other).isSome = true → other.offset ≤ stop.offset := by
      obtain ⟨stop, span, accepted⟩ := exists_spans_here found
      exact ⟨stop, span, accepted, fun other further through =>
        Nat.le_trans (stays other further through) span.mono⟩
    split at found
    · rename_i more
      cases further : tryRun set (least - 1) (most.map (· - 1)) (c :: before) rest (offset + 1)
          next with
      | none =>
        rw [further] at found
        refine here ?_ found
        intro other span through
        rcases many_spans.mp span with ⟨-, rfl⟩ | ⟨x, behind, same, -, -, span⟩
        · exact Nat.le_refl _
        · obtain ⟨rfl, rfl⟩ := List.cons.inj same
          have reached := (tryRun_isSome ..).mpr ⟨other, span, through⟩
          rw [further] at reached
          cases reached
      | some b =>
        rw [further] at found
        cases found
        obtain ⟨stop, span, accepted, furthest⟩ := ih further
        refine ⟨stop, many_spans.mpr (.inr ⟨c, rest, rfl, more.1, more.2, span⟩), accepted, ?_⟩
        intro other way through
        rcases many_spans.mp way with ⟨-, rfl⟩ | ⟨x, behind, same, -, -, way⟩
        · exact Nat.le_of_succ_le span.mono
        · obtain ⟨rfl, rfl⟩ := List.cons.inj same
          exact furthest other way through
    · rename_i stops
      refine here ?_ found
      intro other span _
      rcases many_spans.mp span with ⟨-, rfl⟩ | ⟨x, behind, same, member, positive, -⟩
      · exact Nat.le_refl _
      · obtain ⟨rfl, rfl⟩ := List.cons.inj same
        exact absurd ⟨member, positive⟩ stops

theorem many_furthest {α : Type} {set : CharSet} {least : Nat} {most : Option Nat} {c : Cursor}
    {next : Cursor → Option α} {a : α} (found : (many set least most).tryAt c next = .some a) :
    ∃ stop, (many set least most).Spans c stop ∧ next stop = .some a ∧
      ∀ other, (many set least most).Spans c other → (next other).isSome = true →
        other.offset ≤ stop.offset := tryRun_furthest found

-- Where a run might have gone on it stands before a character of its set.
theorem many_shorter {set : CharSet} {least other : Nat} {most bound : Option Nat}
    {c short long : Cursor} (shorter : (many set least most).Spans c short)
    (longer : (many set other bound).Spans c long) (ahead : short.offset < long.offset) :
    ∃ x rest, short.after = x :: rest ∧ set.contains x = true := by
  obtain ⟨run, -, -, -, passed⟩ := shorter
  obtain ⟨way, members, -, -, passedToo⟩ := longer
  have fewer : run.length < way.length := by
    have one := passed.2.2
    have two := passedToo.2.2
    omega
  obtain ⟨more, rfl⟩ : run <+: way := List.prefix_of_prefix_length_le
    (passed.1 ▸ List.prefix_append _ _) (passedToo.1 ▸ List.prefix_append _ _) (Nat.le_of_lt fewer)
  cases more with
  | nil => exact absurd fewer (by simp)
  | cons x more =>
    refine ⟨x, more ++ long.after, ?_, members x (by simp)⟩
    have whole := passed.1.symm.trans passedToo.1
    rw [List.append_assoc] at whole
    exact List.append_cancel_left whole

-- A run that cannot begin is empty.
theorem many_stays {set : CharSet} {least : Nat} {most : Option Nat} {c stop : Cursor}
    (span : (many set least most).Spans c stop)
    (stays : ∀ x ∈ c.after.head?, set.contains x = false) : stop = c := by
  obtain ⟨run, members, -, -, passed⟩ := span
  cases run with
  | nil => exact passes_nil.mp passed
  | cons x run =>
    have enters := members x List.mem_cons_self
    rw [stays x (by rw [passed.1]; rfl)] at enters
    cases enters

end Pattern

namespace Capture

def marks (blind : Bool) (p : Capture) : Bool :=
  p.lead.marks blind && p.body.marks blind && p.tail.marks blind

-- A match starts at `start`, and the part that it singles out begins at `place`.
def Stands (blind : Bool) (p : Capture) (text : Text) (start place : Nat) : Prop :=
  ∃ left lead body tail right : Text, text = left ++ (lead ++ (body ++ (tail ++ right))) ∧
    left.length = start ∧ (left ++ lead).length = place ∧
    p.lead.plain.Denotes blind left lead (body ++ (tail ++ right)) ∧
    p.body.plain.Denotes blind (left ++ lead) body (tail ++ right) ∧
    p.tail.plain.Denotes blind (left ++ lead ++ body) tail right

-- The match starts furthest to the left, and of those that start there its part begins last.
structure Leads (blind : Bool) (p : Capture) (text : Text) (start place : Nat) : Prop where
  stands : p.Stands blind text start place
  leftmost : ∀ other other', p.Stands blind text other other' → start ≤ other
  furthest : ∀ other, p.Stands blind text start other → other ≤ place

section
variable {p : Capture} {blind : Bool}

theorem stands_iff (marked : p.marks blind = true) (left right : Text) (place : Nat) :
    p.Stands blind (left ++ right) left.length place ↔
      ∃ bodyStart bodyEnd stop, (p.lead.Spans (.between left right) bodyStart ∧
        p.body.Spans bodyStart bodyEnd ∧ p.tail.Spans bodyEnd stop) ∧ bodyStart.offset = place := by
  simp only [marks, Bool.and_eq_true] at marked
  obtain ⟨⟨first, second⟩, third⟩ := marked
  constructor
  · rintro ⟨front, lead, body, tail, back, whole, start, rfl, leading, within, behind⟩
    obtain ⟨rfl, rfl⟩ := List.append_inj whole start.symm
    refine ⟨.between (left ++ lead) (body ++ (tail ++ back)),
      .between (left ++ lead ++ body) (tail ++ back), .between (left ++ lead ++ body ++ tail) back,
      ⟨?_, ?_, ?_⟩, rfl⟩
    · exact (Pattern.spans_iff first left _ _).mpr ⟨lead, _, rfl, rfl, leading⟩
    · exact (Pattern.spans_iff second _ _ _).mpr ⟨body, _, rfl, rfl, within⟩
    · exact (Pattern.spans_iff third _ _ _).mpr ⟨tail, _, rfl, rfl, behind⟩
  · rintro ⟨bodyStart, bodyEnd, stop, ⟨leading, within, behind⟩, rfl⟩
    obtain ⟨lead, rest, rfl, rfl, first⟩ := (Pattern.spans_iff first _ _ _).mp leading
    obtain ⟨body, rest, rfl, rfl, second⟩ := (Pattern.spans_iff second _ _ _).mp within
    obtain ⟨tail, back, rfl, rfl, third⟩ := (Pattern.spans_iff third _ _ _).mp behind
    exact ⟨left, lead, body, tail, back, rfl, rfl, rfl, first, second, third⟩

-- No match starts before the first one.
theorem firstFrom?_leftmost {before text : Text} {offset : Nat} {found : Found}
    (matched : p.firstFrom? before offset text = some found) :
    ∃ left right, text = left ++ right ∧
      p.at? ⟨left.reverse ++ before, right, offset + left.length⟩ = some found ∧
      ∀ front back, text = front ++ back → front.length < left.length →
        p.at? ⟨front.reverse ++ before, back, offset + front.length⟩ = none := by
  induction text generalizing before offset with
  | nil => exact ⟨[], [], rfl, matched, fun _ _ _ shorter => absurd shorter (Nat.not_lt_zero _)⟩
  | cons c rest ih =>
    unfold firstFrom? at matched
    cases here : p.at? ⟨before, c :: rest, offset⟩ with
    | some first =>
      rw [here] at matched
      exact ⟨[], c :: rest, rfl, here.trans matched,
        fun _ _ _ shorter => absurd shorter (Nat.not_lt_zero _)⟩
    | none =>
      rw [here] at matched
      obtain ⟨left, right, rfl, later, none⟩ := ih matched
      refine ⟨c :: left, right, rfl, ?_, ?_⟩
      · simpa [Nat.add_assoc, Nat.add_comm 1] using later
      · intro front back whole shorter
        cases front with
        | nil =>
          obtain rfl : c :: (left ++ right) = back := whole
          exact here
        | cons x front =>
          obtain ⟨rfl, behind⟩ := List.cons.inj whole
          have nothing := none front back behind (Nat.lt_of_succ_lt_succ shorter)
          simpa [Nat.add_assoc, Nat.add_comm 1] using nothing

theorem firstFrom?_none {before text : Text} {offset : Nat}
    (unmatched : p.firstFrom? before offset text = none) {front back : Text}
    (whole : text = front ++ back) :
    p.at? ⟨front.reverse ++ before, back, offset + front.length⟩ = none := by
  induction text generalizing before offset front with
  | nil =>
    obtain ⟨rfl, rfl⟩ := List.append_eq_nil_iff.mp whole.symm
    exact unmatched
  | cons c rest ih =>
    unfold firstFrom? at unmatched
    cases here : p.at? ⟨before, c :: rest, offset⟩ with
    | some first =>
      rw [here] at unmatched
      cases unmatched
    | none =>
      rw [here] at unmatched
      cases front with
      | nil =>
        obtain rfl : c :: rest = back := whole
        exact here
      | cons x front =>
        obtain ⟨rfl, behind⟩ := List.cons.inj whole
        simpa [Nat.add_assoc, Nat.add_comm 1] using ih unmatched behind

theorem stands_of_at? (marked : p.marks blind = true) {left right : Text} {found : Found}
    (matched : p.at? (.between left right) = some found) :
    p.Stands blind (left ++ right) left.length found.bodyStart.offset := by
  obtain ⟨-, lead, body, tail⟩ := at?_spans matched
  exact (stands_iff marked left right _).mpr ⟨_, _, _, ⟨lead, body, tail⟩, rfl⟩

theorem at?_of_stands (marked : p.marks blind = true) {text : Text} {start place : Nat}
    (stands : p.Stands blind text start place) : ∃ left right found, text = left ++ right ∧
      left.length = start ∧ p.at? (.between left right) = some found := by
  obtain ⟨left, lead, body, tail, back, rfl, rfl, -⟩ := id stands
  obtain ⟨bodyStart, bodyEnd, stop, spans, -⟩ := (stands_iff marked left _ place).mp stands
  obtain ⟨found, matched⟩ :=
    Option.isSome_iff_exists.mp (at?_isSome.mpr ⟨bodyStart, bodyEnd, stop, spans⟩)
  exact ⟨left, _, found, rfl, rfl, matched⟩

theorem first?_isSome_iff (marked : p.marks blind = true) {text : Text} :
    (p.first? text).isSome = true ↔ ∃ start place, p.Stands blind text start place := by
  constructor
  · intro given
    obtain ⟨found, matched⟩ := Option.isSome_iff_exists.mp given
    obtain ⟨left, right, rfl, here⟩ := exists_at_of_firstFrom? matched
    rw [List.append_nil, Nat.zero_add] at here
    exact ⟨_, _, stands_of_at? marked here⟩
  · intro given
    obtain ⟨start, place, stands⟩ := given
    obtain ⟨left, right, found, whole, -, matched⟩ := at?_of_stands marked stands
    cases unmatched : p.first? text with
    | some first => rfl
    | none =>
      have nothing := firstFrom?_none unmatched whole
      rw [List.append_nil, Nat.zero_add] at nothing
      cases matched.symm.trans nothing

theorem first?_eq_none_iff (marked : p.marks blind = true) {text : Text} :
    p.first? text = none ↔ ∀ start place, ¬p.Stands blind text start place := by
  rw [← Option.not_isSome_iff_eq_none, first?_isSome_iff marked]
  exact ⟨fun nowhere start place stands => nowhere ⟨start, place, stands⟩,
    fun nowhere ⟨start, place, stands⟩ => nowhere start place stands⟩

-- Where each match singles out the last part that it may, so does the first match.
theorem leads_first? (marked : p.marks blind = true)
    (furthest : ∀ {c : Cursor} {found : Found}, p.at? c = some found →
      ∀ other bodyEnd stop, p.lead.Spans c other → p.body.Spans other bodyEnd →
        p.tail.Spans bodyEnd stop → other.offset ≤ found.bodyStart.offset)
    {text : Text} {found : Found} (matched : p.first? text = some found) :
    ∃ left right, text = left ++ right ∧ p.at? (.between left right) = some found ∧
      p.Leads blind text left.length found.bodyStart.offset := by
  obtain ⟨left, right, rfl, here, none⟩ := firstFrom?_leftmost matched
  rw [List.append_nil, Nat.zero_add] at here
  refine ⟨left, right, rfl, here, stands_of_at? marked here, ?_, ?_⟩
  · intro start place stands
    obtain ⟨front, back, first, whole, rfl, matched⟩ := at?_of_stands marked stands
    apply Nat.le_of_not_lt
    intro shorter
    have nothing := none front back whole shorter
    rw [List.append_nil, Nat.zero_add] at nothing
    cases matched.symm.trans nothing
  · intro place stands
    obtain ⟨other, bodyEnd, stop, ⟨lead, body, tail⟩, rfl⟩ :=
      (stands_iff marked left right place).mp stands
    exact furthest here other bodyEnd stop lead body tail

end
end Capture
end PatchReview
