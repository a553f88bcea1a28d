import PatchReview.Proofs.Pattern.Leftmost
import PatchReview.Proofs.Text.Trim
import PatchReview.Prose

-- Where the summary of a review is.  The forms of a summary let blanks run over lines and stars
-- stand twice, so from one place a form can match in several ways; the way that is taken passes
-- over as much as it can, and what it points at is the rest of a line that begins with a visible
-- character.
namespace PatchReview
namespace Prose

open Pattern hiding some nothing

-- What is singled out behind the lead of a summary, for a match that begins at `start`.
def words (start c : Cursor) : Option Capture.Found :=
  firstWords.tryAt c fun bodyEnd =>
    lineEnd.tryAt bodyEnd fun stop => some ⟨start, c, bodyEnd, stop⟩

section
variable {start c : Cursor}

theorem visible_words {stop : Cursor} (span : firstWords.Spans c stop) :
    ∃ x rest, c.after = x :: rest ∧ Text.isBlank x = false := by
  obtain ⟨middle, ⟨x, visible, initial⟩, -⟩ := span
  exact ⟨x, middle.after, initial.1, by simpa [CharSet.contains] using visible⟩

theorem words_isSome {bodyEnd stop : Cursor} (body : firstWords.Spans c bodyEnd)
    (tail : Pattern.lineEnd.Spans bodyEnd stop) : (words start c).isSome = true := by
  simp only [words, tryAt_isSome]
  exact ⟨bodyEnd, body, stop, tail, rfl⟩

theorem words_text {found : Capture.Found} (matched : words start c = some found) :
    found.bodyStart = c ∧ found.text = c.after.takeWhile (· ≠ '\n') := by
  obtain ⟨bodyEnd, ⟨middle, ⟨x, visible, initial⟩, last, ⟨run, members, -, -, passed⟩, rfl⟩,
    matched⟩ := exists_spans_of_tryAt matched
  obtain ⟨stop, ⟨-, ends⟩, matched⟩ := exists_spans_of_tryAt matched
  cases matched
  have whole := passes_trans initial passed
  refine ⟨rfl, whole.upTo.trans ?_⟩
  have inLine : ∀ y ∈ [x] ++ run, y ≠ '\n' := by
    rintro y member rfl
    rcases List.mem_append.mp member with only | among
    · cases List.mem_singleton.mp only
      exact absurd visible (by decide)
    · exact absurd (members _ among) (by decide)
  rw [whole.1, List.takeWhile_append_of_pos (by simpa using inLine)]
  have stops : bodyEnd.after.takeWhile (· ≠ '\n') = [] := by
    cases after : bodyEnd.after with
    | nil => rfl
    | cons y rest =>
      obtain rfl : y = '\n' := by simpa [Cursor.atLineEnd, after] using ends
      rfl
  rw [stops, List.append_nil]

end

-- A form of summary: behind its lead stand the words to the end of a line, and of the ways to pass
-- over the lead the one that goes furthest is taken.
structure IsForm (p : Capture) : Prop where
  body : p.body = firstWords
  tail : p.tail = Pattern.lineEnd
  marked : p.marks true = true
  furthest : ∀ {c : Cursor} {found : Capture.Found}, p.at? c = some found →
    ∀ other, p.lead.Spans c other → (words c other).isSome = true →
      other.offset ≤ found.bodyStart.offset

theorem IsForm.at?_eq {p : Capture} (form : IsForm p) (c : Cursor) :
    p.at? c = p.lead.tryAt c (words c) := by
  rw [Capture.at?, form.body, form.tail]
  rfl

theorem star_visible {x : Char} :
    (CharSet.oneOf "*").contains x = true → Text.isBlank x = false := by
  intro star
  obtain rfl : x = '*' := by simpa [CharSet.contains] using star
  decide

theorem any_here {set : CharSet} {c : Cursor} : (any set).Spans c c :=
  ⟨[], nofun, Nat.zero_le _, nofun, passes_nil.mpr rfl⟩

theorem any_trans {set : CharSet} {c middle stop : Cursor} (one : (any set).Spans c middle)
    (two : (any set).Spans middle stop) : (any set).Spans c stop := by
  obtain ⟨run, members, -, -, passed⟩ := one
  obtain ⟨way, more, -, -, further⟩ := two
  exact ⟨run ++ way, List.forall_mem_append.mpr ⟨members, more⟩, Nat.zero_le _, nofun,
    passes_trans passed further⟩

-- Stars between blanks.
def gap : Pattern := seqs [any .blank, stars, any .blank]

theorem gap_furthest {start c : Cursor} {found : Capture.Found}
    (matched : gap.tryAt c (words start) = some found) {other : Cursor} (span : gap.Spans c other)
    (through : (words start other).isSome = true) : other.offset ≤ found.bodyStart.offset := by
  obtain ⟨one, blanks, matched, farOne⟩ := many_furthest matched
  obtain ⟨two, starred, matched, farTwo⟩ := many_furthest matched
  obtain ⟨three, spaced, matched, farThree⟩ := many_furthest matched
  obtain ⟨rfl, -⟩ := words_text matched
  obtain ⟨first, blanksToo, second, starredToo, third, spacedToo, rfl⟩ := span
  have goes {a b : Cursor} (starred : stars.Spans a b) (spaced : (any .blank).Spans b other) :
      ((seqs [stars, any .blank]).tryAt a (words start)).isSome = true :=
    (tryAt_isSome ..).mpr ⟨other, ⟨b, starred, other, spaced, rfl⟩, through⟩
  rcases Nat.lt_or_eq_of_le (farOne first blanksToo (goes starredToo spacedToo)) with short | same
  · -- Before the last blank no star can stand, so there are blanks all the way.
    obtain ⟨x, rest, ahead, blank⟩ := many_shorter blanksToo blanks short
    obtain rfl : second = first := by
      apply many_stays starredToo
      rw [ahead]
      rintro y ⟨rfl⟩
      rw [← Bool.not_eq_true]
      intro star
      cases (star_visible star).symm.trans blank
    have reached := farOne other (any_trans blanksToo spacedToo) (goes any_here any_here)
    exact Nat.le_trans reached (Nat.le_trans starred.mono spaced.mono)
  · obtain rfl := blanksToo.eq_of_offset blanks same
    have behind : ((seqs [any .blank]).tryAt second (words start)).isSome = true :=
      (tryAt_isSome ..).mpr ⟨other, ⟨other, spacedToo, rfl⟩, through⟩
    rcases Nat.lt_or_eq_of_le (farTwo second starredToo behind) with short | same
    · obtain ⟨x, rest, ahead, star⟩ := many_shorter starredToo starred short
      obtain rfl : other = second := by
        apply many_stays spacedToo
        rw [ahead]
        rintro y ⟨rfl⟩
        exact star_visible star
      exact Nat.le_trans (Nat.le_of_lt short) spaced.mono
    · obtain rfl := starredToo.eq_of_offset starred same
      exact farThree other spacedToo through

-- Up to the colon there is one way to pass, since nothing before it is one.
def colonFront : Pattern := seqs [anyCase "summary", stars, any .blank]

theorem colon_at? (c : Cursor) : summaryColon.at? c =
    colonFront.tryAt c fun middle => (exactly ":").tryAt middle fun behind =>
      gap.tryAt behind (words c) := rfl

theorem colon_unique {c one two oneStop twoStop : Cursor} (first : colonFront.Spans c one)
    (colon : (exactly ":").Spans one oneStop) (second : colonFront.Spans c two)
    (colonToo : (exactly ":").Spans two twoStop) : oneStop = twoStop := by
  have clear : colonFront.takesOnly (· ≠ ':') := takesOnly_of_avoids (by decide)
  obtain ⟨run, passed, free⟩ := first.passes_only clear
  obtain ⟨way, further, freeToo⟩ := second.passes_only clear
  have stops {c stop : Cursor} (colon : (exactly ":").Spans c stop) :
      ∀ x ∈ c.after.head?, ¬x ≠ ':' := by
    rw [(spans_exactly.mp colon).1]
    rintro x ⟨rfl⟩ other
    exact other rfl
  obtain rfl : run = way :=
    kind_unique (passed.1.symm.trans further.1) free freeToo (stops colon) (stops colonToo)
  obtain rfl := passed.end_eq further
  exact (spans_exactly.mp colon).end_eq (spans_exactly.mp colonToo)

theorem summaryColon_isForm : IsForm summaryColon where
  body := rfl
  tail := rfl
  marked := by decide +kernel
  furthest := by
    intro c found matched other lead through
    rw [colon_at?] at matched
    obtain ⟨middle, front, matched⟩ := exists_spans_of_tryAt matched
    obtain ⟨behind, colon, matched⟩ := exists_spans_of_tryAt matched
    obtain ⟨one, word, two, starred, three, spaced, four, colonToo, rest⟩ := lead
    obtain rfl := colon_unique front colon ⟨one, word, two, starred, three, spaced, rfl⟩ colonToo
    exact gap_furthest matched rest through

-- The heading form.  Neither what stands before its word nor what stands behind it can be part of
-- anything else.
def headingFront : Pattern := seqs [lineStart, Pattern.some (.oneOf "#"), any .blank]

def headingGap : Pattern := seqs [any .blank, Pattern.some (.oneOf "\n"), any .blank]

def IsFront (x : Char) : Prop := x = '#' ∨ Text.isBlank x = true

theorem headingFront_takesOnly : headingFront.takesOnly IsFront := by
  refine ⟨trivial, ?_, ?_, trivial⟩
  · intro x sign
    exact .inl (by simpa [CharSet.contains] using sign)
  · intro x blank
    exact .inr blank

theorem headingGap_takesOnly : headingGap.takesOnly (Text.isBlank · = true) := by
  refine ⟨fun x blank => blank, ?_, fun x blank => blank, trivial⟩
  intro x feed
  obtain rfl : x = '\n' := by simpa [CharSet.contains] using feed
  decide

theorem anyCase_offset {word : Text} {c stop : Cursor} (span : (anyCase word).Spans c stop) :
    stop.offset = c.offset + word.length := by
  induction word generalizing c with
  | nil => exact congrArg Cursor.offset span
  | cons x word ih =>
    obtain ⟨middle, ⟨y, -, passed⟩, more⟩ := span
    rw [ih more, passed.2.2, List.length_singleton, List.length_cons]
    omega

theorem not_front_letter {m x : Char} (same : SameLetter m x) : ¬IsFront x := by
  have letters : (letterClasses.all fun letters => letters.all fun x =>
      x ≠ '#' ∧ Text.isBlank x = false) = true := by decide +kernel
  simp only [List.all_eq_true, decide_eq_true_eq] at letters
  obtain ⟨own, among, -, member⟩ := same
  obtain ⟨sign, visible⟩ := letters own among x member
  rintro (same | blank)
  · exact sign same
  · cases visible.symm.trans blank

theorem not_front_word {c stop : Cursor} (span : (anyCase "summary").Spans c stop) :
    ∀ x ∈ c.after.head?, ¬IsFront x := by
  obtain ⟨middle, ⟨y, letter, passed⟩, -⟩ := span
  rw [passed.1]
  rintro x ⟨rfl⟩
  have ascii : (CharSet.oneOf ['s']).isAscii = true := by decide
  obtain ⟨m, member, named⟩ := (CharSet.anyCase_iff ascii y).mp letter
  obtain rfl := List.mem_singleton.mp member
  rcases named with rfl | ⟨-, same⟩
  · exact not_front_letter (by decide : SameLetter 's' 's')
  · exact not_front_letter same

-- What the lead of a heading is made of.
theorem heading_parts {c stop : Cursor} (span : summaryHeading.lead.Spans c stop) :
    ∃ begin done, headingFront.Spans c begin ∧ (anyCase "summary").Spans begin done ∧
      headingGap.Spans done stop := by
  obtain ⟨one, atLine, two, signs, begin, blanks, done, word, behind⟩ := span
  exact ⟨begin, done, ⟨one, atLine, two, signs, begin, blanks, rfl⟩, word, behind⟩

theorem heading_unique {c one two oneEnd twoEnd : Cursor}
    (first : summaryHeading.lead.Spans c one) (second : summaryHeading.lead.Spans c two)
    (words : firstWords.Spans one oneEnd) (wordsToo : firstWords.Spans two twoEnd) : one = two := by
  obtain ⟨begin, done, front, word, behind⟩ := heading_parts first
  obtain ⟨beginToo, doneToo, frontToo, wordToo, behindToo⟩ := heading_parts second
  obtain ⟨run, passed, inside⟩ := front.passes_only headingFront_takesOnly
  obtain ⟨way, further, insideToo⟩ := frontToo.passes_only headingFront_takesOnly
  obtain rfl : run = way := kind_unique (passed.1.symm.trans further.1) inside insideToo
    (not_front_word word) (not_front_word wordToo)
  obtain rfl := passed.end_eq further
  obtain rfl := word.eq_of_offset wordToo
    ((anyCase_offset word).trans (anyCase_offset wordToo).symm)
  have stops {c stop : Cursor} (words : firstWords.Spans c stop) :
      ∀ x ∈ c.after.head?, ¬Text.isBlank x = true := by
    obtain ⟨y, rest, ahead, visible⟩ := visible_words words
    rw [ahead]
    rintro x ⟨rfl⟩
    exact Bool.eq_false_iff.mp visible
  obtain ⟨run, passed, inside⟩ := behind.passes_only headingGap_takesOnly
  obtain ⟨way, further, insideToo⟩ := behindToo.passes_only headingGap_takesOnly
  obtain rfl : run = way := kind_unique (passed.1.symm.trans further.1) inside insideToo
    (stops words) (stops wordsToo)
  exact passed.end_eq further

theorem summaryHeading_isForm : IsForm summaryHeading where
  body := rfl
  tail := rfl
  marked := by decide +kernel
  furthest := by
    intro c found matched other lead through
    obtain ⟨-, here, words, -⟩ := Capture.at?_spans matched
    obtain ⟨stop, wordsToo, -⟩ := (tryAt_isSome ..).mp through
    exact Nat.le_of_eq (congrArg Cursor.offset (heading_unique lead here wordsToo words))

-- A summary stands at `place`: `said` is what is left of the line from there, up to the last
-- visible character.
structure Says (text said : Text) (place : Nat) : Prop where
  inside : place < text.length
  visible : ∀ c ∈ text[place]?, Text.isBlank c = false
  filled : said ≠ []
  rest : said = Text.trimEnd ((text.drop place).takeWhile (· ≠ '\n'))

theorem said_line {front rest : Text} {x : Char} (visible : Text.isBlank x = false) :
    Says (front ++ x :: rest) (Text.trim ((x :: rest).takeWhile (· ≠ '\n'))) front.length where
  inside := by simp
  visible := by
    rw [List.getElem?_append_right (Nat.le_refl _), Nat.sub_self]
    rintro c ⟨rfl⟩
    exact visible
  filled := by
    have other : x ≠ '\n' := by
      rintro rfl
      exact absurd visible (by decide)
    intro empty
    have blank := Text.trim_eq_nil_iff.mp empty x (by simp [other])
    cases blank.symm.trans visible
  rest := by
    have other : x ≠ '\n' := by
      rintro rfl
      exact absurd visible (by decide)
    rw [List.drop_left, List.takeWhile_cons_of_pos (by simpa using other), Text.trim,
      Text.trimWhile, List.dropWhile_cons_of_neg (by simp [visible])]
    rfl

theorem IsForm.points {p : Capture} (form : IsForm p) {text : Text} {found : Capture.Found}
    (matched : p.first? text = some found) :
    Says text (Text.trim found.text) found.bodyStart.offset ∧
      ∃ start, p.Leads true text start found.bodyStart.offset := by
  obtain ⟨left, right, rfl, here, leads⟩ := Capture.leads_first? form.marked
    (fun matched other bodyEnd stop lead body tail =>
      form.furthest matched other lead (words_isSome (form.body ▸ body) (form.tail ▸ tail))) matched
  refine ⟨?_, left.length, leads⟩
  rw [form.at?_eq] at here
  obtain ⟨c, lead, here⟩ := exists_spans_of_tryAt here
  obtain ⟨bodyEnd, body, -⟩ := exists_spans_of_tryAt here
  obtain ⟨rfl, text⟩ := words_text here
  obtain ⟨x, rest, ahead, visible⟩ := visible_words body
  have passes : ∃ run, (Cursor.between left right).Passes run found.bodyStart := lead.passes
  obtain ⟨run, passed⟩ := passes
  obtain ⟨behind, rfl, place⟩ := passes_between.mp passed
  rw [place] at ahead text ⊢
  obtain rfl : behind = x :: rest := ahead
  rw [text, ← List.append_assoc]
  exact said_line visible

-- Where the summary comes from.
inductive Source (text : Text) : Option (Text × Nat) → Prop
  | colon {said : Text} {start place : Nat} (held : Says text said place)
      (leads : summaryColon.Leads true text start place) : Source text (some (said, place))
  | heading {said : Text} {start place : Nat} (held : Says text said place)
      (noColon : ∀ start place, ¬summaryColon.Stands true text start place)
      (leads : summaryHeading.Leads true text start place) : Source text (some (said, place))
  | none (noColon : ∀ start place, ¬summaryColon.Stands true text start place)
      (noHeading : ∀ start place, ¬summaryHeading.Stands true text start place) : Source text none

theorem summary?_source (text : Text) : Source text (summary? text) := by
  unfold summary? findSummary
  cases colon : summaryColon.first? text with
  | some found =>
    obtain ⟨held, start, leads⟩ := summaryColon_isForm.points colon
    exact .colon held leads
  | none =>
    have noColon := (Capture.first?_eq_none_iff summaryColon_isForm.marked).mp colon
    cases heading : summaryHeading.first? text with
    | some found =>
      obtain ⟨held, start, leads⟩ := summaryHeading_isForm.points heading
      exact .heading held noColon leads
    | none =>
      exact .none noColon ((Capture.first?_eq_none_iff summaryHeading_isForm.marked).mp heading)

theorem summary_points (text : Text) :
    (∀ said place, summary? text = some (said, place) → Says text said place) ∧
    ((∃ start place, summaryColon.Stands true text start place) →
      ∃ said start place, summary? text = some (said, place) ∧
        summaryColon.Leads true text start place) ∧
    ((∀ start place, ¬summaryColon.Stands true text start place) →
      (∃ start place, summaryHeading.Stands true text start place) →
        ∃ said start place, summary? text = some (said, place) ∧
          summaryHeading.Leads true text start place) ∧
    (summary? text = none ↔
      (∀ start place, ¬summaryColon.Stands true text start place) ∧
        ∀ start place, ¬summaryHeading.Stands true text start place) := by
  have source := summary?_source text
  generalize summary? text = summary at source ⊢
  cases source with
  | @colon said start place held leads =>
    refine ⟨?_, ?_, ?_, nofun, ?_⟩
    · intro said place same
      cases same
      exact held
    · intro _
      exact ⟨said, start, place, rfl, leads⟩
    · intro noColon
      exact absurd leads.stands (noColon _ _)
    · intro nowhere
      exact absurd leads.stands (nowhere.1 _ _)
  | @heading said start place held noColon leads =>
    refine ⟨?_, ?_, ?_, nofun, ?_⟩
    · intro said place same
      cases same
      exact held
    · intro given
      obtain ⟨start, place, stands⟩ := given
      exact absurd stands (noColon start place)
    · intro _ _
      exact ⟨said, start, place, rfl, leads⟩
    · intro nowhere
      exact absurd leads.stands (nowhere.2 _ _)
  | none noColon noHeading =>
    refine ⟨nofun, ?_, ?_, fun _ => ⟨noColon, noHeading⟩, fun _ => rfl⟩
    · intro given
      obtain ⟨start, place, stands⟩ := given
      exact absurd stands (noColon start place)
    · intro _ given
      obtain ⟨start, place, stands⟩ := given
      exact absurd stands (noHeading start place)

-- Behind the colon only a star is left to stand for the words, and it goes before the heading.
def starred : Text := "# Summary\n\nFine.\n\nSUMMARY* :\n **\n"

def headed : Text := "# Summary\n \n Fine. \n"

theorem summary_points_starred :
    (Says starred ['*'] 31 ∧ ∃ start, summaryColon.Leads true starred start 31) ∧
      ∃ start, summaryHeading.Leads true headed start 13 := by
  obtain ⟨held, colonFirst, -, -⟩ := summary_points starred
  obtain ⟨-, -, headingThen, -⟩ := summary_points headed
  have found : summary? starred = some (['*'], 31) := by decide +kernel
  have foundThere : summary? headed = some (['F', 'i', 'n', 'e', '.'], 13) := by decide +kernel
  constructor
  · refine ⟨held _ _ found, ?_⟩
    have colon : (summaryColon.first? starred).isSome = true := by decide +kernel
    obtain ⟨said, start, place, same, leads⟩ :=
      colonFirst ((Capture.first?_isSome_iff summaryColon_isForm.marked).mp colon)
    cases same.symm.trans found
    exact ⟨start, leads⟩
  · have noColon : summaryColon.first? headed = none := by decide +kernel
    have heading : (summaryHeading.first? headed).isSome = true := by decide +kernel
    obtain ⟨said, start, place, same, leads⟩ :=
      headingThen ((Capture.first?_eq_none_iff summaryColon_isForm.marked).mp noColon)
        ((Capture.first?_isSome_iff summaryHeading_isForm.marked).mp heading)
    cases same.symm.trans foundThere
    exact ⟨start, leads⟩

end Prose
end PatchReview
