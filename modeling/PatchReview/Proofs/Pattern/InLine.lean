import PatchReview.Pattern.Capture
import PatchReview.Pattern.Span

-- Patterns that never leave a line.  Such a pattern cannot tell a line of a text from the same line
-- alone, so what it matches in a text is what it matches in the lines.
namespace PatchReview

-- What stands next to a line: nothing, or a line feed first.
def LineEdge (side : Text) : Prop := ∀ c ∈ side.head?, c = '\n'

theorem lineEdge_nil : LineEdge [] := by simp [LineEdge]

theorem lineEdge_cons (side : Text) : LineEdge ('\n' :: side) := by simp [LineEdge]

namespace Cursor

-- A position of a line, as a position of a text in which the line stands at `offset`.
def within (before after : Text) (offset : Nat) (c : Cursor) : Cursor :=
  ⟨c.before ++ before, c.after ++ after, offset + c.offset⟩

def InLine (c : Cursor) : Prop := '\n' ∉ c.before ∧ '\n' ∉ c.after

theorem wordSide_append {side edge : Text} (bounded : LineEdge edge) :
    wordSide (side ++ edge) = wordSide side := by
  cases side with
  | cons c side => rfl
  | nil =>
    cases edge with
    | nil => rfl
    | cons c edge =>
      cases bounded c (by simp)
      rfl

theorem lineStart_append {side edge : Text} (inside : '\n' ∉ side) (bounded : LineEdge edge) :
    ((side ++ edge).isEmpty || (side ++ edge).head? == some '\n') =
      (side.isEmpty || side.head? == some '\n') := by
  cases side with
  | cons c side => rfl
  | nil =>
    cases edge with
    | nil => rfl
    | cons c edge =>
      cases bounded c (by simp)
      rfl

-- Where no line feed is ahead a line only ends with the text.
theorem after_of_atLineEnd {c : Cursor} (ends : c.atLineEnd = true) (inside : '\n' ∉ c.after) :
    c.after = [] := by
  cases after : c.after with
  | nil => rfl
  | cons x more =>
    have feed : x = '\n' := by simpa [atLineEnd, after] using ends
    rw [after, feed] at inside
    exact absurd List.mem_cons_self inside

end Cursor

namespace Pattern

-- No set takes a line feed, and no anchor asks for an end of the text.
def staysInLine : Pattern → Bool
  | nothing | wordEdge | lineStart | lineEnd => true
  | textStart | textEnd => false
  | char set | many set _ _ => !set.contains '\n'
  | seq p q | alt p q => p.staysInLine && q.staysInLine
  | notAhead p => p.staysInLine

theorem map_orElse {α β : Type} (f : α → β) (first : Option α) (second : Unit → Option α) :
    (first.orElse second).map f = (first.map f).orElse fun _ => (second ()).map f := by
  cases first <;> rfl

section
variable {α β : Type} {before after : Text} {offset : Nat}

theorem tryRun_within {set : CharSet} (stays : set.contains '\n' = false) (right : LineEdge after)
    (f : α → β) {next : Cursor → Option α} {further : Cursor → Option β}
    (agree : ∀ stop : Cursor, stop.InLine →
      further (stop.within before after offset) = (next stop).map f)
    (least : Nat) (most : Option Nat) (behind ahead : Text) (place : Nat)
    (inLine : Cursor.InLine ⟨behind, ahead, place⟩) :
    tryRun set least most (behind ++ before) (ahead ++ after) (offset + place) further =
      (tryRun set least most behind ahead place next).map f := by
  -- Whether the run may end here is the same question on both sides.
  have stop : (if least = 0 then further ⟨behind ++ before, ahead ++ after, offset + place⟩
      else none) = (if least = 0 then next ⟨behind, ahead, place⟩ else none).map f := by
    by_cases zero : least = 0
    · simpa [zero, Cursor.within] using agree ⟨behind, ahead, place⟩ inLine
    · simp [zero]
  induction ahead generalizing least most behind place with
  | nil =>
    cases after with
    | nil =>
      unfold tryRun
      exact stop
    | cons x after =>
      cases right x (by simp)
      rw [List.nil_append, tryRun_cons]
      simp only [stays, Bool.false_eq_true, false_and, if_false]
      unfold tryRun
      exact stop
  | cons x ahead ih =>
    have moved : Cursor.InLine ⟨x :: behind, ahead, place + 1⟩ := by
      simp only [Cursor.InLine, List.mem_cons, not_or] at inLine ⊢
      exact ⟨⟨inLine.2.1, inLine.1⟩, inLine.2.2⟩
    have more := ih (least - 1) (most.map (· - 1)) (x :: behind) (place + 1) moved (by
      by_cases zero : least - 1 = 0
      · simpa [zero, Cursor.within] using agree _ moved
      · simp [zero])
    rw [List.cons_append] at stop ⊢
    rw [tryRun_cons, tryRun_cons]
    by_cases enters : set.contains x = true ∧ most ≠ .some 0
    · rw [if_pos enters, if_pos enters, map_orElse, ← more, ← stop]
      rfl
    · rw [if_neg enters, if_neg enters]
      exact stop

-- A search inside a line goes the same way when text is put around the line.
theorem tryAt_within (p : Pattern) (stays : p.staysInLine = true) (left : LineEdge before)
    (right : LineEdge after) {α β : Type} (f : α → β) {next : Cursor → Option α}
    {further : Cursor → Option β}
    (agree : ∀ stop : Cursor, stop.InLine →
      further (stop.within before after offset) = (next stop).map f)
    (c : Cursor) (inLine : c.InLine) :
    p.tryAt (c.within before after offset) further = (p.tryAt c next).map f := by
  induction p generalizing α β c with
  | nothing => exact agree c inLine
  | char set =>
    simp only [staysInLine, Bool.not_eq_true'] at stays
    obtain ⟨behind, ahead, place⟩ := c
    cases ahead with
    | nil =>
      cases after with
      | nil => rfl
      | cons x after =>
        cases right x (by simp)
        simp [tryAt, Cursor.within, stays]
    | cons x ahead =>
      have moved : Cursor.InLine ⟨x :: behind, ahead, place + 1⟩ := by
        simp only [Cursor.InLine, List.mem_cons, not_or] at inLine ⊢
        exact ⟨⟨inLine.2.1, inLine.1⟩, inLine.2.2⟩
      have here := agree _ moved
      by_cases enters : set.contains x = true
      · simpa [tryAt, Cursor.within, enters, Nat.add_assoc] using here
      · simp [tryAt, Cursor.within, enters]
  | seq p q hp hq =>
    simp only [staysInLine, Bool.and_eq_true] at stays
    unfold tryAt
    apply hp stays.1 f
    · intro stop inside
      exact hq stays.2 f agree stop inside
    · exact inLine
  | alt p q hp hq =>
    simp only [staysInLine, Bool.and_eq_true] at stays
    unfold tryAt
    rw [hp stays.1 f agree c inLine, hq stays.2 f agree c inLine, map_orElse]
  | many set least most =>
    simp only [staysInLine, Bool.not_eq_true'] at stays
    obtain ⟨behind, ahead, place⟩ := c
    exact tryRun_within stays right f agree least most behind ahead place inLine
  | wordEdge =>
    have same : (c.within before after offset).atWordEdge = c.atWordEdge := by
      simp only [Cursor.atWordEdge, Cursor.within, Cursor.wordSide_append left,
        Cursor.wordSide_append right]
    unfold tryAt
    rw [same, agree c inLine]
    split <;> rfl
  | textStart => cases stays
  | textEnd => cases stays
  | lineStart =>
    have same : (c.within before after offset).atLineStart = c.atLineStart :=
      Cursor.lineStart_append inLine.1 left
    unfold tryAt
    rw [same, agree c inLine]
    split <;> rfl
  | lineEnd =>
    have same : (c.within before after offset).atLineEnd = c.atLineEnd :=
      Cursor.lineStart_append inLine.2 right
    unfold tryAt
    rw [same, agree c inLine]
    split <;> rfl
  | notAhead p hp =>
    have ahead : p.tryAt (c.within before after offset) Option.some =
        (p.tryAt c Option.some).map (Cursor.within before after offset) :=
      hp stays _ (fun _ _ => rfl) c inLine
    unfold tryAt
    rw [ahead, Option.isSome_map, agree c inLine]
    split <;> rfl

end

theorem passes_trans {c middle stop : Cursor} {first second : Text} (one : c.Passes first middle)
    (two : middle.Passes second stop) : c.Passes (first ++ second) stop := by
  refine ⟨?_, ?_, ?_⟩
  · rw [one.1, two.1, List.append_assoc]
  · rw [two.2.1, one.2.1, List.reverse_append, List.append_assoc]
  · rw [two.2.2, one.2.2, List.length_append, Nat.add_assoc]

-- Every character that a set of the pattern takes is of the kind.
def takesOnly (kind : Char → Prop) : Pattern → Prop
  | char set | many set _ _ => ∀ x, set.contains x = true → kind x
  | seq p q | alt p q => p.takesOnly kind ∧ q.takesOnly kind
  | nothing | wordEdge | textStart | textEnd | lineStart | lineEnd | notAhead _ => True

theorem Spans.passes_only {kind : Char → Prop} {p : Pattern} (only : p.takesOnly kind)
    {c stop : Cursor} (span : p.Spans c stop) : ∃ run, c.Passes run stop ∧ ∀ x ∈ run, kind x := by
  induction p generalizing c stop with
  | nothing => exact ⟨[], passes_nil.mpr span, nofun⟩
  | char set =>
    obtain ⟨y, member, passed⟩ := span
    refine ⟨[y], passed, ?_⟩
    intro x among
    rw [List.mem_singleton.mp among]
    exact only y member
  | seq p q hp hq =>
    obtain ⟨middle, first, second⟩ := span
    obtain ⟨one, passed, front⟩ := hp only.1 first
    obtain ⟨two, further, back⟩ := hq only.2 second
    exact ⟨one ++ two, passes_trans passed further, List.forall_mem_append.mpr ⟨front, back⟩⟩
  | alt p q hp hq =>
    rcases span with first | second
    · exact hp only.1 first
    · exact hq only.2 second
  | many set least most =>
    obtain ⟨run, members, -, -, passed⟩ := span
    exact ⟨run, passed, fun x among => only x (members x among)⟩
  | wordEdge | textStart | textEnd | lineStart | lineEnd | notAhead =>
    exact ⟨[], passes_nil.mpr span.1, nofun⟩

theorem takesOnly_any (p : Pattern) : p.takesOnly fun _ => True := by
  induction p with
  | char | many => exact fun _ _ => trivial
  | seq p q hp hq | alt p q hp hq => exact ⟨hp, hq⟩
  | nothing | wordEdge | textStart | textEnd | lineStart | lineEnd | notAhead => exact trivial

-- Whatever a pattern is, a span of it goes forward in one text.
theorem Spans.passes {p : Pattern} {c stop : Cursor} (span : p.Spans c stop) :
    ∃ run, c.Passes run stop := by
  obtain ⟨run, passed, -⟩ := span.passes_only (takesOnly_any p)
  exact ⟨run, passed⟩

-- No set of the pattern takes the character.
def avoids (x : Char) : Pattern → Bool
  | char set | many set _ _ => !set.contains x
  | seq p q | alt p q => p.avoids x && q.avoids x
  | nothing | wordEdge | textStart | textEnd | lineStart | lineEnd | notAhead _ => true

theorem takesOnly_of_avoids {x : Char} {p : Pattern} (avoids : p.avoids x = true) :
    p.takesOnly (· ≠ x) := by
  induction p with
  | char set | many set _ _ =>
    simp only [Pattern.avoids, Bool.not_eq_true'] at avoids
    intro y member same
    rw [same, avoids] at member
    cases member
  | seq p q hp hq | alt p q hp hq =>
    simp only [Pattern.avoids, Bool.and_eq_true] at avoids
    exact ⟨hp avoids.1, hq avoids.2⟩
  | nothing | wordEdge | textStart | textEnd | lineStart | lineEnd | notAhead => exact trivial

theorem Spans.passes_avoiding {x : Char} {p : Pattern} (avoids : p.avoids x = true)
    {c stop : Cursor} (span : p.Spans c stop) : ∃ run, c.Passes run stop ∧ x ∉ run := by
  obtain ⟨run, passed, only⟩ := span.passes_only (takesOnly_of_avoids avoids)
  exact ⟨run, passed, fun among => only x among rfl⟩

theorem avoids_lineFeed {p : Pattern} (stays : p.staysInLine = true) : p.avoids '\n' = true := by
  induction p with
  | char | many => exact stays
  | seq p q hp hq | alt p q hp hq =>
    simp only [staysInLine, Bool.and_eq_true] at stays
    exact Bool.and_eq_true_iff.mpr ⟨hp stays.1, hq stays.2⟩
  | nothing | wordEdge | textStart | textEnd | lineStart | lineEnd | notAhead => rfl

-- What stays in a line passes over no line feed.
theorem Spans.passes_inLine {p : Pattern} (stays : p.staysInLine = true) {c stop : Cursor}
    (span : p.Spans c stop) : ∃ run, c.Passes run stop ∧ '\n' ∉ run :=
  span.passes_avoiding (avoids_lineFeed stays)

end Pattern

namespace Cursor

theorem Passes.upTo {c stop : Cursor} {run : Text} (passed : c.Passes run stop) :
    c.upTo stop = run := by
  rw [Cursor.upTo, passed.1, passed.2.2, Nat.add_sub_cancel_left, List.take_left]

theorem Passes.within {c stop : Cursor} {run : Text} (passed : c.Passes run stop)
    (before after : Text) (offset : Nat) :
    (c.within before after offset).Passes run (stop.within before after offset) := by
  refine ⟨?_, ?_, ?_⟩
  · simp [Cursor.within, passed.1]
  · simp [Cursor.within, passed.2.1]
  · simp [Cursor.within, passed.2.2, Nat.add_assoc]

end Cursor

namespace Capture

def staysInLine (p : Capture) : Bool :=
  p.lead.staysInLine && p.body.staysInLine && p.tail.staysInLine

def Found.within (before after : Text) (offset : Nat) (found : Found) : Found :=
  ⟨found.start.within before after offset, found.bodyStart.within before after offset,
    found.bodyEnd.within before after offset, found.stop.within before after offset⟩

theorem at?_within {p : Capture} (stays : p.staysInLine = true) {before after : Text}
    (left : LineEdge before) (right : LineEdge after) (offset : Nat) (c : Cursor)
    (inLine : c.InLine) :
    p.at? (c.within before after offset) = (p.at? c).map (Found.within before after offset) := by
  simp only [staysInLine, Bool.and_eq_true] at stays
  unfold at?
  apply Pattern.tryAt_within p.lead stays.1.1 left right
  · intro bodyStart first
    apply Pattern.tryAt_within p.body stays.1.2 left right
    · intro bodyEnd second
      apply Pattern.tryAt_within p.tail stays.2 left right
      · intro stop third
        rfl
      · exact second
    · exact first
  · exact inLine

theorem at?_spans {p : Capture} {c : Cursor} {found : Found} (matched : p.at? c = some found) :
    found.start = c ∧ p.lead.Spans c found.bodyStart ∧
      p.body.Spans found.bodyStart found.bodyEnd ∧ p.tail.Spans found.bodyEnd found.stop := by
  unfold at? at matched
  obtain ⟨bodyStart, first, matched⟩ := Pattern.exists_spans_of_tryAt matched
  obtain ⟨bodyEnd, second, matched⟩ := Pattern.exists_spans_of_tryAt matched
  obtain ⟨stop, third, matched⟩ := Pattern.exists_spans_of_tryAt matched
  cases matched
  exact ⟨rfl, first, second, third⟩

theorem newline_text {p : Capture} (stays : p.body.staysInLine = true) {c : Cursor} {found : Found}
    (matched : p.at? c = some found) : '\n' ∉ found.text := by
  obtain ⟨-, -, body, -⟩ := at?_spans matched
  obtain ⟨run, passed, clear⟩ := body.passes_inLine stays
  unfold Found.text
  rwa [passed.upTo]

theorem text_infix {p : Capture} {c : Cursor} {found : Found} (matched : p.at? c = some found) :
    found.text <:+: c.after := by
  obtain ⟨-, lead, body, -⟩ := at?_spans matched
  obtain ⟨front, leading⟩ := lead.passes
  obtain ⟨run, passed⟩ := body.passes
  refine ⟨front, found.bodyEnd.after, ?_⟩
  rw [Found.text, passed.upTo, List.append_assoc, ← passed.1, ← leading.1]

theorem exists_at_of_mem_all {p : Capture} {text : Text} {found : Found}
    (member : found ∈ p.all text) : ∃ c, p.at? c = some found := by
  have each (skip : Nat) (before : Text) (offset : Nat) (text : Text)
      (member : found ∈ p.allFrom skip before offset text) : ∃ c, p.at? c = some found := by
    fun_induction p.allFrom skip before offset text with
    | case1 => cases member
    | case2 _ _ _ _ _ ih => exact ih member
    | case3 before offset c rest first matched ih =>
      rcases List.mem_cons.mp member with rfl | later
      · exact ⟨_, (Option.filter_eq_some_iff.mp matched).1⟩
      · exact ih later
    | case4 _ _ _ _ _ ih => exact ih member
  exact each 0 [] 0 text member

-- A first match is a match at one of the positions of the text.
theorem exists_at_of_firstFrom? {p : Capture} {before text : Text} {offset : Nat} {found : Found}
    (matched : p.firstFrom? before offset text = some found) :
    ∃ left right, text = left ++ right ∧
      p.at? ⟨left.reverse ++ before, right, offset + left.length⟩ = some found := by
  induction text generalizing before offset with
  | nil => exact ⟨[], [], rfl, matched⟩
  | cons c rest ih =>
    unfold firstFrom? at matched
    cases here : p.at? ⟨before, c :: rest, offset⟩ with
    | some first =>
      rw [here] at matched
      exact ⟨[], c :: rest, rfl, here.trans matched⟩
    | none =>
      rw [here] at matched
      obtain ⟨left, right, rfl, later⟩ := ih matched
      refine ⟨c :: left, right, rfl, ?_⟩
      simpa [Nat.add_assoc, Nat.add_comm 1] using later

end Capture
end PatchReview
