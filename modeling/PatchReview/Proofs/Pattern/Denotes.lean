import PatchReview.Pattern.Span

-- Patterns read as languages.  A pattern denotes pieces of a text, each with what stands before and
-- behind it in the whole text.  Whether case matters is one flag for a whole pattern here, where
-- the matcher has marks on single sets.
namespace PatchReview

-- The letters that are one letter when case is ignored: both cases of a letter of ASCII, and the
-- letters beyond ASCII that fold to it.
def letterClasses : List Text :=
  ["aA", "bB", "cC", "dD", "eE", "fF", "gG", "hH", "iI\u0130\u0131", "jJ", "kK\u212a", "lL", "mM",
    "nN", "oO", "pP", "qQ", "rR", "sS\u017f", "tT", "uU", "vV", "wW", "xX", "yY", "zZ"]

def SameLetter (a b : Char) : Prop := ∃ letters ∈ letterClasses, a ∈ letters ∧ b ∈ letters

instance (a b : Char) : Decidable (SameLetter a b) :=
  inferInstanceAs (Decidable (∃ letters ∈ letterClasses, a ∈ letters ∧ b ∈ letters))

namespace CharSet

-- The set without its marks for case.
def plain : CharSet → CharSet
  | either left right => either left.plain right.plain
  | except left => except left.plain
  | anyCase left => left.plain
  | set => set

def Names (blind : Bool) : CharSet → Char → Prop
  | oneOf members, c => ∃ m ∈ members, m = c ∨ blind = true ∧ SameLetter m c
  | range low high, c => ∃ m, (low ≤ m ∧ m ≤ high) ∧ (m = c ∨ blind = true ∧ SameLetter m c)
  | blank, c => Text.isBlank c = true
  | word, c => Text.isWord c = true
  | digit, c => Text.isDigit c = true
  | either left right, c => left.Names blind c ∨ right.Names blind c
  | except left, c => ¬ left.Names blind c
  | anyCase left, c => left.Names true c

-- Every member is a character of ASCII, and is named as such.
def isAscii : CharSet → Bool
  | oneOf members => members.all (·.toNat < 128)
  | range _ high => high.toNat < 128
  | either left right => left.isAscii && right.isAscii
  | blank | word | digit | except _ | anyCase _ => false

-- The marks say what the flag says: with it every letter stands under a mark, without it none.
def marks (blind : Bool) : CharSet → Bool
  | oneOf members => !blind || members.all fun m => m.toNat < 128 && !m.isAlpha
  | range _ _ => !blind
  | blank | word | digit => true
  | either left right => left.marks blind && right.marks blind
  | except left => left.marks blind
  | anyCase left => blind && left.isAscii

end CharSet

-- What holds of the first 128 characters one by one.
theorem ascii_forall {p : Char → Prop} (each : ∀ n < 128, p (Char.ofNat n)) {c : Char}
    (ascii : c.toNat < 128) : p c := by
  have own := each c.toNat ascii
  rwa [Char.ofNat_toNat] at own

theorem casing_beyond_ascii {c : Char} (beyond : ¬ c.toNat < 128) :
    c.toLower = c ∧ c.toUpper = c := by
  constructor
  · apply dif_neg
    intro upper
    have bound : c.toNat ≤ 90 := upper.2
    omega
  · apply dif_neg
    intro lower
    have bound : c.toNat ≤ 122 := lower.2
    omega

-- A character of ASCII is one letter with exactly those that fold to it.
theorem sameLetter_iff {m c : Char} (ascii : m.toNat < 128) :
    m = c ∨ SameLetter m c ↔ m = Text.fold c ∨ m = (Text.fold c).toUpper := by
  constructor
  · intro same
    cases same with
    | inl same =>
      have own : ∀ n < 128, Char.ofNat n = Text.fold (Char.ofNat n) ∨
          Char.ofNat n = (Text.fold (Char.ofNat n)).toUpper := by decide +kernel
      rw [← same]
      exact ascii_forall (p := fun m => m = Text.fold m ∨ m = (Text.fold m).toUpper) own ascii
    | inr same =>
      have folds : (letterClasses.all fun letters => letters.all fun m => letters.all fun c =>
          m.toNat < 128 → m = Text.fold c ∨ m = (Text.fold c).toUpper) = true := by decide +kernel
      simp only [List.all_eq_true, decide_eq_true_eq] at folds
      obtain ⟨letters, among, first, second⟩ := same
      exact folds letters among m first c second ascii
  · intro folded
    by_cases small : c.toNat < 128
    · let unfolds (m c : Char) : Prop := m = c ∨ SameLetter m c
      have own : ∀ n < 128, unfolds (Text.fold (Char.ofNat n)) (Char.ofNat n) ∧
          unfolds (Text.fold (Char.ofNat n)).toUpper (Char.ofNat n) := by decide +kernel
      have both := ascii_forall
        (p := fun c => unfolds (Text.fold c) c ∧ unfolds (Text.fold c).toUpper c) own small
      cases folded with
      | inl lower => exact lower ▸ both.1
      | inr upper => exact upper ▸ both.2
    · -- Beyond ASCII only the four special letters fold to something else.
      by_cases special : c ∈ ['\u0130', '\u0131', '\u017f', '\u212a']
      · have folds : (['\u0130', '\u0131', '\u017f', '\u212a'].all fun c =>
            SameLetter (Text.fold c) c ∧ SameLetter (Text.fold c).toUpper c) = true := by
          decide +kernel
        simp only [List.all_eq_true, decide_eq_true_eq] at folds
        cases folded with
        | inl lower => exact .inr (lower ▸ (folds c special).1)
        | inr upper => exact .inr (upper ▸ (folds c special).2)
      · have same : Text.fold c = c := by
          simp only [List.mem_cons, List.not_mem_nil, or_false, not_or] at special
          simp [Text.fold, special, (casing_beyond_ascii small).1]
        rw [same, (casing_beyond_ascii small).2, or_self] at folded
        exact .inl folded

theorem not_sameLetter {m c : Char} (ascii : m.toNat < 128) (other : m.isAlpha = false) :
    ¬ SameLetter m c := by
  have letters : (letterClasses.all fun letters => letters.all fun m =>
      m.toNat < 128 → m.isAlpha = true) = true := by decide +kernel
  simp only [List.all_eq_true, decide_eq_true_eq] at letters
  intro ⟨own, among, member, _⟩
  rw [letters own among m member ascii] at other
  cases other

namespace CharSet

-- A mark on a set of ASCII characters is what the flag does to it.
theorem anyCase_iff {set : CharSet} (ascii : set.isAscii = true) (c : Char) :
    set.anyCase.contains c = true ↔ set.plain.Names true c := by
  have both : set.anyCase.contains c =
      (set.contains (Text.fold c) || set.contains (Text.fold c).toUpper) := rfl
  rw [both, Bool.or_eq_true]
  induction set with
  | oneOf members =>
    simp only [isAscii, List.all_eq_true, decide_eq_true_eq] at ascii
    simp only [contains, List.contains_eq_mem, decide_eq_true_eq, plain, Names, true_and]
    constructor
    · intro folded
      cases folded with
      | inl lower => exact ⟨_, lower, (sameLetter_iff (ascii _ lower)).mpr (.inl rfl)⟩
      | inr upper => exact ⟨_, upper, (sameLetter_iff (ascii _ upper)).mpr (.inr rfl)⟩
    · intro ⟨m, member, same⟩
      cases (sameLetter_iff (ascii m member)).mp same with
      | inl lower => exact .inl (lower ▸ member)
      | inr upper => exact .inr (upper ▸ member)
  | range low high =>
    simp only [isAscii, decide_eq_true_eq] at ascii
    have bounded {m : Char} (below : m ≤ high) : m.toNat < 128 := Nat.lt_of_le_of_lt below ascii
    simp only [contains, Bool.and_eq_true, decide_eq_true_eq, plain, Names, true_and]
    constructor
    · intro folded
      cases folded with
      | inl lower => exact ⟨_, lower, (sameLetter_iff (bounded lower.2)).mpr (.inl rfl)⟩
      | inr upper => exact ⟨_, upper, (sameLetter_iff (bounded upper.2)).mpr (.inr rfl)⟩
    · intro ⟨m, between, same⟩
      cases (sameLetter_iff (bounded between.2)).mp same with
      | inl lower => exact .inl (lower ▸ between)
      | inr upper => exact .inr (upper ▸ between)
  | either left right hl hr =>
    simp only [isAscii, Bool.and_eq_true] at ascii
    simp only [contains, Bool.or_eq_true, plain, Names, ← hl ascii.1 rfl, ← hr ascii.2 rfl]
    constructor
    · intro folded
      rcases folded with (one | two) | (one | two)
      · exact .inl (.inl one)
      · exact .inr (.inl two)
      · exact .inl (.inr one)
      · exact .inr (.inr two)
    · intro folded
      rcases folded with (one | two) | (one | two)
      · exact .inl (.inl one)
      · exact .inr (.inl two)
      · exact .inl (.inr one)
      · exact .inr (.inr two)
  | blank | word | digit | except | anyCase => cases ascii

theorem contains_iff {set : CharSet} {blind : Bool} (marked : set.marks blind = true) (c : Char) :
    set.contains c = true ↔ set.plain.Names blind c := by
  induction set with
  | oneOf members =>
    simp only [contains, List.contains_eq_mem, decide_eq_true_eq, plain, Names]
    constructor
    · intro member
      exact ⟨c, member, .inl rfl⟩
    · intro ⟨m, member, same⟩
      cases same with
      | inl same => exact same ▸ member
      | inr folded =>
        simp only [marks, folded.1, Bool.not_true, Bool.false_or, List.all_eq_true,
          Bool.and_eq_true, decide_eq_true_eq, Bool.not_eq_true'] at marked
        obtain ⟨ascii, other⟩ := marked m member
        exact absurd folded.2 (not_sameLetter ascii other)
  | range low high =>
    simp only [contains, Bool.and_eq_true, decide_eq_true_eq, plain, Names]
    constructor
    · intro between
      exact ⟨c, between, .inl rfl⟩
    · intro ⟨m, between, same⟩
      cases same with
      | inl same => exact same ▸ between
      | inr folded =>
        rw [folded.1] at marked
        cases marked
  | blank | word | digit => rfl
  | either left right hl hr =>
    simp only [marks, Bool.and_eq_true] at marked
    simp only [contains, Bool.or_eq_true, plain, Names, hl marked.1, hr marked.2]
  | except left hl =>
    simp only [contains, Bool.not_eq_true', plain, Names, ← hl marked, Bool.not_eq_true]
  | anyCase left _ =>
    simp only [marks, Bool.and_eq_true] at marked
    rw [marked.1]
    exact anyCase_iff marked.2 c

end CharSet

-- The position between two parts of a text.
def Cursor.between (left right : Text) : Cursor := ⟨left.reverse, right, left.length⟩

namespace Pattern

def plain : Pattern → Pattern
  | char set => char set.plain
  | seq first second => seq first.plain second.plain
  | alt first second => alt first.plain second.plain
  | many set least most => many set.plain least most
  | notAhead ahead => notAhead ahead.plain
  | p => p

def marks (blind : Bool) : Pattern → Bool
  | char set | many set _ _ => set.marks blind
  | seq p q | alt p q => p.marks blind && q.marks blind
  | notAhead ahead => ahead.marks blind
  | nothing | wordEdge | textStart | textEnd | lineStart | lineEnd => true

def EndsInWord (left : Text) : Prop := ∃ front c, left = front ++ [c] ∧ Text.isWord c = true

def StartsInWord (right : Text) : Prop := ∃ c rest, right = c :: rest ∧ Text.isWord c = true

-- What a pattern may be in a text: the piece between what stands before it and what stands behind.
def Denotes (blind : Bool) : Pattern → (left piece right : Text) → Prop
  | nothing, _, piece, _ => piece = []
  | char set, _, piece, _ => ∃ c, piece = [c] ∧ set.Names blind c
  | seq p q, left, piece, right => ∃ first second, piece = first ++ second ∧
      Denotes blind p left first (second ++ right) ∧ Denotes blind q (left ++ first) second right
  | alt p q, left, piece, right =>
    Denotes blind p left piece right ∨ Denotes blind q left piece right
  | many set least most, _, piece, _ => (∀ c ∈ piece, set.Names blind c) ∧ least ≤ piece.length ∧
      ∀ limit, most = .some limit → piece.length ≤ limit
  | wordEdge, left, piece, right => piece = [] ∧ ¬ (EndsInWord left ↔ StartsInWord right)
  | textStart, left, piece, _ => piece = [] ∧ left = []
  | textEnd, _, piece, right => piece = [] ∧ (right = [] ∨ right = ['\n'])
  | lineStart, left, piece, _ => piece = [] ∧ (left = [] ∨ ∃ front, left = front ++ ['\n'])
  | lineEnd, _, piece, right => piece = [] ∧ (right = [] ∨ ∃ rest, right = '\n' :: rest)
  | notAhead p, left, piece, right =>
    piece = [] ∧ ¬ ∃ ahead rest, right = ahead ++ rest ∧ Denotes blind p left ahead rest

-- Some piece of the text is in the language.
def Occurs (blind : Bool) (p : Pattern) (text : Text) : Prop :=
  ∃ left piece right, text = left ++ piece ++ right ∧ p.Denotes blind left piece right

theorem passes_between {left after run : Text} {stop : Cursor} :
    (Cursor.between left after).Passes run stop ↔
      ∃ right, after = run ++ right ∧ stop = .between (left ++ run) right := by
  constructor
  · intro ⟨ahead, behind, further⟩
    refine ⟨stop.after, ahead, ?_⟩
    obtain ⟨before, after, offset⟩ := stop
    simp only [Cursor.between] at behind further ⊢
    rw [behind, further, List.reverse_append, List.length_append]
  · intro ⟨right, ahead, same⟩
    subst same
    exact ⟨ahead, List.reverse_append, List.length_append⟩

theorem here_between {left after : Text} {stop : Cursor} {p : Prop} {q : Text → Text → Prop}
    (same : p ↔ q left after) :
    stop = .between left after ∧ p ↔
      ∃ piece right, after = piece ++ right ∧ stop = .between (left ++ piece) right ∧
        piece = [] ∧ q left right := by
  constructor
  · intro ⟨here, holds⟩
    exact ⟨[], after, rfl, by simpa using here, rfl, same.mp holds⟩
  · intro ⟨piece, right, ahead, there, empty, holds⟩
    subst empty
    simp only [List.nil_append, List.append_nil] at ahead there
    subst ahead
    exact ⟨there, same.mpr holds⟩

theorem wordSide_iff (right : Text) : Cursor.wordSide right = true ↔ StartsInWord right := by
  cases right with
  | nil => simp [Cursor.wordSide, StartsInWord]
  | cons c rest => simp [Cursor.wordSide, StartsInWord]

theorem wordSide_reverse_iff (left : Text) :
    Cursor.wordSide left.reverse = true ↔ EndsInWord left := by
  rw [wordSide_iff]
  constructor
  · intro ⟨c, rest, shape, letter⟩
    refine ⟨rest.reverse, c, ?_, letter⟩
    rw [← List.reverse_cons, ← shape, List.reverse_reverse]
  · intro ⟨front, c, shape, letter⟩
    refine ⟨c, front.reverse, ?_, letter⟩
    rw [shape, List.reverse_append]
    rfl

theorem atWordEdge_iff (left right : Text) :
    (Cursor.between left right).atWordEdge = true ↔ ¬ (EndsInWord left ↔ StartsInWord right) := by
  rw [← wordSide_iff right, ← wordSide_reverse_iff left, Cursor.atWordEdge, Cursor.between]
  dsimp only
  cases Cursor.wordSide left.reverse <;> cases Cursor.wordSide right <;> decide

theorem atTextEnd_iff (left right : Text) :
    (Cursor.between left right).atTextEnd = true ↔ right = [] ∨ right = ['\n'] := by
  simp [Cursor.atTextEnd, Cursor.between]

theorem atLineStart_iff (left right : Text) :
    (Cursor.between left right).atLineStart = true ↔
      left = [] ∨ ∃ front, left = front ++ ['\n'] := by
  simp [Cursor.atLineStart, Cursor.between, List.getLast?_eq_some_iff]

theorem atLineEnd_iff (left right : Text) :
    (Cursor.between left right).atLineEnd = true ↔ right = [] ∨ ∃ rest, right = '\n' :: rest := by
  simp [Cursor.atLineEnd, Cursor.between, List.head?_eq_some_iff]

-- The spans of the matcher are the pieces of the language.
theorem spans_iff {p : Pattern} {blind : Bool} (marked : p.marks blind = true)
    (left after : Text) (stop : Cursor) :
    p.Spans (.between left after) stop ↔
      ∃ piece right, after = piece ++ right ∧ stop = .between (left ++ piece) right ∧
        p.plain.Denotes blind left piece right := by
  induction p generalizing left after stop with
  | nothing =>
    constructor
    · intro here
      refine ⟨[], after, rfl, ?_, rfl⟩
      rw [List.append_nil]
      exact here
    · intro given
      obtain ⟨piece, right, ahead, there, empty⟩ := given
      obtain rfl : piece = [] := empty
      obtain rfl : after = right := ahead
      rw [List.append_nil] at there
      exact there
  | char set =>
    simp only [Spans, plain, Denotes, CharSet.contains_iff marked, passes_between]
    constructor
    · intro given
      obtain ⟨c, member, right, ahead, there⟩ := given
      exact ⟨[c], right, ahead, there, c, rfl, member⟩
    · intro given
      obtain ⟨piece, right, ahead, there, c, single, member⟩ := given
      exact ⟨c, member, right, single ▸ ahead, single ▸ there⟩
  | seq p q hp hq =>
    simp only [marks, Bool.and_eq_true] at marked
    constructor
    · intro given
      obtain ⟨middle, one, two⟩ := given
      obtain ⟨first, rest, ahead, there, before⟩ := (hp marked.1 left after middle).mp one
      rw [there] at two
      obtain ⟨second, right, further, done, behind⟩ := (hq marked.2 _ rest stop).mp two
      refine ⟨first ++ second, right, ?_, ?_, first, second, rfl, ?_, behind⟩
      · rw [ahead, further, List.append_assoc]
      · rw [done, List.append_assoc]
      · exact further ▸ before
    · intro given
      obtain ⟨piece, right, ahead, there, first, second, parts, before, behind⟩ := given
      refine ⟨.between (left ++ first) (second ++ right), ?_, ?_⟩
      · apply (hp marked.1 left after _).mpr
        refine ⟨first, second ++ right, ?_, rfl, before⟩
        rw [ahead, parts, List.append_assoc]
      · apply (hq marked.2 _ _ stop).mpr
        refine ⟨second, right, rfl, ?_, behind⟩
        rw [there, parts, List.append_assoc]
  | alt p q hp hq =>
    simp only [marks, Bool.and_eq_true] at marked
    simp only [Spans, plain, Denotes, hp marked.1, hq marked.2]
    constructor
    · intro span
      rcases span with ⟨piece, right, ahead, there, one⟩ | ⟨piece, right, ahead, there, two⟩
      · exact ⟨piece, right, ahead, there, .inl one⟩
      · exact ⟨piece, right, ahead, there, .inr two⟩
    · intro given
      obtain ⟨piece, right, ahead, there, either⟩ := given
      cases either with
      | inl one => exact .inl ⟨piece, right, ahead, there, one⟩
      | inr two => exact .inr ⟨piece, right, ahead, there, two⟩
  | many set least most =>
    simp only [Spans, plain, Denotes, CharSet.contains_iff marked, passes_between]
    constructor
    · intro given
      obtain ⟨run, members, enough, short, right, ahead, there⟩ := given
      exact ⟨run, right, ahead, there, members, enough, short⟩
    · intro given
      obtain ⟨run, right, ahead, there, members, enough, short⟩ := given
      exact ⟨run, members, enough, short, right, ahead, there⟩
  | wordEdge =>
    exact here_between (q := fun left right => ¬ (EndsInWord left ↔ StartsInWord right))
      (atWordEdge_iff left after)
  | textStart =>
    exact here_between (q := fun left _ => left = []) (by simp [Cursor.atTextStart, Cursor.between])
  | textEnd =>
    exact here_between (q := fun _ right => right = [] ∨ right = ['\n']) (atTextEnd_iff left after)
  | lineStart =>
    exact here_between (q := fun left _ => left = [] ∨ ∃ front, left = front ++ ['\n'])
      (atLineStart_iff left after)
  | lineEnd =>
    exact here_between (q := fun _ right => right = [] ∨ ∃ rest, right = '\n' :: rest)
      (atLineEnd_iff left after)
  | notAhead p hp =>
    apply here_between (q := fun left right =>
      ¬ ∃ ahead rest, right = ahead ++ rest ∧ p.plain.Denotes blind left ahead rest)
    apply not_congr
    constructor
    · intro given
      obtain ⟨stop, span⟩ := given
      obtain ⟨piece, right, ahead, -, inside⟩ := (hp marked left after stop).mp span
      exact ⟨piece, right, ahead, inside⟩
    · intro given
      obtain ⟨piece, right, ahead, inside⟩ := given
      exact ⟨_, (hp marked left after _).mpr ⟨piece, right, ahead, rfl, inside⟩⟩

theorem foundIn_iff_occurs {p : Pattern} {blind : Bool} (marked : p.marks blind = true)
    (text : Text) : p.foundIn text = true ↔ p.plain.Occurs blind text := by
  rw [foundIn_iff]
  constructor
  · intro ⟨left, after, stop, cut, span⟩
    obtain ⟨piece, right, ahead, -, inside⟩ := (spans_iff marked left after stop).mp span
    refine ⟨left, piece, right, ?_, inside⟩
    rw [cut, ahead, List.append_assoc]
  · intro ⟨left, piece, right, cut, inside⟩
    refine ⟨left, piece ++ right, .between (left ++ piece) right, ?_, ?_⟩
    · rw [cut, List.append_assoc]
    · exact (spans_iff marked left _ _).mpr ⟨piece, right, rfl, rfl, inside⟩

-- A match of the whole text is the text itself in the language.
theorem matchesAll_iff {p : Pattern} {blind : Bool} (marked : p.marks blind = true)
    (text : Text) : p.matchesAll text = true ↔ p.plain.Denotes blind [] text [] := by
  unfold matchesAll
  rw [tryAt_isSome]
  constructor
  · intro ⟨stop, span, done⟩
    obtain ⟨piece, right, ahead, there, inside⟩ := (spans_iff marked [] text stop).mp span
    obtain rfl : right = [] := by
      rw [there] at done
      simpa [Cursor.between, isSome_ite] using done
    rw [List.append_nil] at ahead
    exact ahead ▸ inside
  · intro inside
    refine ⟨.between text [], ?_, rfl⟩
    exact (spans_iff marked [] text _).mpr ⟨text, [], by simp, rfl, inside⟩

end Pattern
end PatchReview
