import Mathlib.Data.List.Basic
import PatchReview.Prompt
import PatchReview.Proofs.Text.Lines
import PatchReview.Proofs.Text.Numeral
import PatchReview.Rule.Table

-- Templates as they are written down, with the names of their slots in braces.  Reading one from
-- left to right and putting in values by their names gives what filling gives, whatever stands in
-- the values: a value is put in where its name stood, and is not read itself.
namespace PatchReview
namespace Template

-- Values by their names.
abbrev Values := List (Text × Text)

def Values.named? (values : Values) (name : Text) : Option Text :=
  (values.find? fun entry => entry.1 = name).map (·.2)

-- Reads a written template, told what has been read of a name if a brace is open.  A doubled brace
-- is one brace, and between single braces stands a name and nothing else.  There is no reading
-- where a brace is without its partner or a name without a value.
def expandFrom (values : Values) : (opened : Option Text) → Text → Option Text
  | none, [] => some []
  | none, '{' :: '{' :: rest => ('{' :: ·) <$> expandFrom values none rest
  | none, '}' :: '}' :: rest => ('}' :: ·) <$> expandFrom values none rest
  | none, '{' :: rest => expandFrom values (some []) rest
  | none, '}' :: _ => none
  | none, c :: rest => (c :: ·) <$> expandFrom values none rest
  | some _, [] => none
  | some name, '}' :: rest => do return (← values.named? name) ++ (← expandFrom values none rest)
  | some name, c :: rest => expandFrom values (some (name ++ [c])) rest

def expand (values : Values) (written : Text) : Option Text := expandFrom values none written

def IsBrace (c : Char) : Prop := c = '{' ∨ c = '}'

instance (c : Char) : Decidable (IsBrace c) := inferInstanceAs (Decidable (c = '{' ∨ c = '}'))

def Unbraced (t : Text) : Prop := ∀ c ∈ t, ¬IsBrace c

-- Only the characters of the text are looked at, and not all that there are.
instance (t : Text) : Decidable (Unbraced t) := List.decidableBAll (¬IsBrace ·) t

theorem unbraced_literal {words : String} {characters : List Char}
    (spelled : words = String.ofList characters) (clear : Unbraced characters) :
    Unbraced words.toList := by
  rw [spelled, String.toList_ofList]
  exact clear

theorem unbraced_append {t other : Text} (first : Unbraced t) (second : Unbraced other) :
    Unbraced (t ++ other) := List.forall_mem_append.mpr ⟨first, second⟩

theorem unbraced_ofNat (n : Nat) : Unbraced (Text.ofNat n) := by
  rintro c member (rfl | rfl)
  · exact Text.not_mem_ofNat rfl n member
  · exact Text.not_mem_ofNat rfl n member

-- The second text is the first with each name in braces replaced, and all else as it stands.
inductive Replaced (values : Values) : (written filled : Text) → Prop
  | nil : Replaced values [] []
  | plain {c : Char} {written filled : Text} (other : ¬IsBrace c)
      (later : Replaced values written filled) : Replaced values (c :: written) (c :: filled)
  | doubled {c : Char} {written filled : Text} (brace : IsBrace c)
      (later : Replaced values written filled) : Replaced values (c :: c :: written) (c :: filled)
  | name {name value written filled : Text} (single : name.head? ≠ some '{') (closed : '}' ∉ name)
      (known : values.named? name = some value) (later : Replaced values written filled) :
      Replaced values ('{' :: (name ++ '}' :: written)) (value ++ filled)

section
variable {values : Values}

theorem expandFrom_name {name : Text} (closed : '}' ∉ name) (read rest : Text) :
    expandFrom values (some read) (name ++ '}' :: rest) =
      (values.named? (read ++ name)).bind fun value =>
        (expandFrom values none rest).map (value ++ ·) := by
  induction name generalizing read with
  | nil =>
    rw [List.nil_append, List.append_nil, expandFrom]
    cases values.named? read with
    | none => rfl
    | some value => cases expandFrom values none rest <;> rfl
  | cons c name ih =>
    simp only [List.mem_cons, not_or] at closed
    rw [List.cons_append, expandFrom]
    · rw [ih closed.2, List.append_assoc, List.singleton_append]
    · exact fun same => closed.1 same.symm

theorem expand_of_replaced {written filled : Text} (replaced : Replaced values written filled) :
    expand values written = some filled := by
  unfold expand
  induction replaced with
  | nil => rfl
  | @plain c _ _ other _ ih =>
    unfold IsBrace at other
    rw [not_or] at other
    rw [expandFrom, ih]
    · rfl
    all_goals simp_all
  | doubled brace _ ih =>
    rcases brace with rfl | rfl <;> rw [expandFrom, ih] <;> rfl
  | @name name value rest filled single closed known _ ih =>
    have opened : expandFrom values none ('{' :: (name ++ '}' :: rest)) =
        expandFrom values (some []) (name ++ '}' :: rest) := by
      rw [expandFrom]
      intro more same
      cases name with
      | nil => cases same
      | cons c name => exact single (congrArg some (List.cons.inj same).1)
    rw [opened, expandFrom_name closed, List.nil_append, known, ih]
    rfl

-- What a reading says of a text when part of a name may have been read before it.
def ReplacedFrom (values : Values) (opened : Option Text) (written filled : Text) : Prop :=
  match opened with
  | none => Replaced values written filled
  | some begun => ∃ name rest value more, written = name ++ '}' :: rest ∧ '}' ∉ name ∧
      values.named? (begun ++ name) = some value ∧ Replaced values rest more ∧
        filled = value ++ more

theorem replacedFrom_of_expandFrom (opened : Option Text) (written filled : Text)
    (read : expandFrom values opened written = some filled) :
    ReplacedFrom values opened written filled := by
  fun_induction expandFrom values opened written generalizing filled with
  | case1 =>
    cases read
    exact .nil
  | case2 rest ih | case3 rest ih =>
    obtain ⟨more, later, rfl⟩ := Option.map_eq_some_iff.mp read
    exact .doubled (by decide) (ih more later)
  | case4 rest single ih =>
    obtain ⟨name, behind, value, more, rfl, closed, known, later, rfl⟩ := ih filled read
    refine .name ?_ closed known later
    intro doubled
    obtain ⟨back, same⟩ := List.head?_eq_some_iff.mp doubled
    exact single (back ++ '}' :: behind) (by rw [same, List.cons_append])
  | case5 | case7 => cases read
  | case6 c rest _ _ opens closes ih =>
    obtain ⟨more, later, rfl⟩ := Option.map_eq_some_iff.mp read
    exact .plain (fun brace => brace.elim opens closes) (ih more later)
  | case8 begun rest ih =>
    obtain ⟨value, known, read⟩ := Option.bind_eq_some_iff.mp read
    obtain ⟨more, later, same⟩ := Option.bind_eq_some_iff.mp read
    cases same
    refine ⟨[], rest, value, more, rfl, List.not_mem_nil, ?_, ih more later, rfl⟩
    rwa [List.append_nil]
  | case9 begun c rest other ih =>
    obtain ⟨name, behind, value, more, rfl, closed, known, later, rfl⟩ := ih filled read
    refine ⟨c :: name, behind, value, more, rfl, ?_, ?_, later, rfl⟩
    · exact fun inside => (List.mem_cons.mp inside).elim (fun same => other same.symm) closed
    · rwa [List.append_cons]

theorem expand_iff {written filled : Text} :
    expand values written = some filled ↔ Replaced values written filled :=
  ⟨replacedFrom_of_expandFrom none written filled, expand_of_replaced⟩

theorem replaced_append {t written filled : Text} (plain : Unbraced t)
    (later : Replaced values written filled) : Replaced values (t ++ written) (t ++ filled) := by
  induction t with
  | nil => exact later
  | cons c t ih =>
    obtain ⟨first, rest⟩ := List.forall_mem_cons.mp plain
    exact .plain first (ih rest)

end

section
variable {Slot : Type}

-- The fixed texts of the template hold no brace.
inductive IsPlain : Template Slot → Prop
  | nil : IsPlain []
  | text {t : Text} {rest : Template Slot} (plain : Unbraced t) (later : IsPlain rest) :
      IsPlain (.text t :: rest)
  | slot {s : Slot} {rest : Template Slot} (later : IsPlain rest) : IsPlain (.slot s :: rest)

theorem IsPlain.literal {words : String} {characters : List Char}
    (spelled : words = String.ofList characters) (clear : Unbraced characters) :
    IsPlain ([.text words.toList] : Template Slot) :=
  .text (unbraced_literal spelled clear) .nil

def braced (name : Text) : Text := "\x7b" ++ name ++ "\x7d"

-- Each slot is known by a name of its own.
structure Supplies (values : Values) (name value : Slot → Text) : Prop where
  plain : ∀ s, Unbraced (name s)
  known : ∀ s, values.named? (name s) = some (value s)

theorem expand_written {values : Values} {name value : Slot → Text}
    (supplied : Supplies values name value) {template : Template Slot} (plain : template.IsPlain) :
    expand values (template.written name) = some (template.fill value) := by
  refine expand_iff.mpr ?_
  induction plain with
  | nil => exact .nil
  | text plain _ ih => exact replaced_append plain ih
  | @slot s rest _ ih =>
    have shape : Template.written name (.slot s :: rest) =
        '{' :: (name s ++ '}' :: Template.written name rest) := by
      simp [Template.written, Template.fill]
    rw [shape]
    refine .name ?_ ?_ (supplied.known s) ih
    · intro doubled
      exact supplied.plain s '{' (List.mem_of_mem_head? doubled) (.inl rfl)
    · exact fun inside => supplied.plain s '}' inside (.inr rfl)

end
end Template

namespace Prompt
open Template

def Slot.name : Slot → Text
  | .filename => "filename"
  | .status => "status"
  | .patch => "patch"

def shown (patch : Text) : Text := if patch.isEmpty then noDiff else patch

def values (filename status patch : Text) : Values :=
  [("filename", filename), ("status", status), ("patch", shown patch)]

theorem unbraced_instructions : Unbraced (Text.unlines instructions) := by
  have lines : ∀ line ∈ instructions, Unbraced line := by
    simp only [instructions, List.forall_mem_cons]
    exact ⟨unbraced_literal rfl (by decide), unbraced_literal rfl (by decide),
      unbraced_literal rfl (by decide),
      unbraced_append (unbraced_literal rfl (by decide)) (unbraced_literal rfl (by decide)),
      unbraced_literal rfl (by decide), nofun⟩
  intro c member
  rcases Text.mem_joinWith member with feed | ⟨line, among, inside⟩
  · exact unbraced_literal rfl (by decide) c feed
  · exact lines line among c inside

theorem user_shape : ∃ head second third tail : Text,
    Unbraced head ∧ Unbraced second ∧ Unbraced third ∧ Unbraced tail ∧
      template = [.text head, .slot .filename, .text second, .slot .status, .text third,
        .slot .patch, .text tail] := by
  have fenced : Unbraced fence := by decide
  refine ⟨_, _, _, _, ?_, ?_, ?_, ?_, rfl⟩
  · exact unbraced_literal rfl (by decide)
  · exact unbraced_literal rfl (by decide)
  · exact unbraced_append (unbraced_append (unbraced_literal rfl (by decide)) fenced)
      (unbraced_literal rfl (by decide))
  · exact unbraced_append (unbraced_append (unbraced_append (unbraced_literal rfl (by decide))
      fenced) (unbraced_literal rfl (by decide))) unbraced_instructions

theorem plain_template : template.IsPlain := by
  obtain ⟨head, second, third, tail, atHead, atSecond, atThird, atTail, shape⟩ := user_shape
  rw [shape]
  exact .text atHead (.slot (.text atSecond (.slot (.text atThird (.slot (.text atTail .nil))))))

theorem supplies (filename status patch : Text) :
    Supplies (values filename status patch) Slot.name fun
      | .filename => filename
      | .status => status
      | .patch => shown patch where
  plain s := by cases s <;> exact unbraced_literal rfl (by decide)
  known s := by cases s <;> rfl

-- The template has each name once, with fixed texts around them, and the prompt has the texts that
-- are given in their places.
theorem user_parts : ∃ head second third tail : Text,
    Unbraced head ∧ Unbraced second ∧ Unbraced third ∧ Unbraced tail ∧
      template.written Slot.name =
        head ++ braced (Slot.name .filename) ++ second ++ braced (Slot.name .status) ++ third ++
          braced (Slot.name .patch) ++ tail ∧
      ∀ filename status patch, user filename status patch =
        head ++ filename ++ second ++ status ++ third ++ shown patch ++ tail := by
  obtain ⟨head, second, third, tail, atHead, atSecond, atThird, atTail, shape⟩ := user_shape
  refine ⟨head, second, third, tail, atHead, atSecond, atThird, atTail, ?_, ?_⟩
  · rw [shape]
    simp [Template.written, Template.fill, braced]
  · intro filename status patch
    rw [user, shape]
    simp [Template.fill, shown]

theorem user_injective {filename status patch other : Text} (given : patch ≠ [])
    (alsoGiven : other ≠ []) (same : user filename status patch = user filename status other) :
    patch = other := by
  obtain ⟨head, second, third, tail, -, -, -, -, -, parts⟩ := user_parts
  rw [parts, parts] at same
  have shownSame := List.append_cancel_left (List.append_cancel_right same)
  rwa [shown, shown, if_neg (by simpa using given), if_neg (by simpa using alsoGiven)]
    at shownSame

end Prompt

namespace LineSlot
open Template

def values (line : Text) : Values :=
  [("line", Text.trim line), ("length", Text.ofNat line.length)]

theorem supplies (line : Text) : Supplies (values line) name (value line) where
  plain s := by cases s <;> exact unbraced_literal rfl (by decide)
  known s := by cases s <;> rfl

end LineSlot

namespace RuleTable
open Template

theorem plain_credentialAdvice {what : String} {characters : List Char}
    (spelled : what = String.ofList characters) (clear : Unbraced characters) :
    (credentialAdvice what).IsPlain := by
  refine .text (unbraced_append (unbraced_append ?_ ?_) ?_) .nil
  · exact unbraced_literal rfl (by decide)
  · exact unbraced_literal spelled clear
  · exact unbraced_literal rfl (by decide)

theorem plain_innerHtml : innerHtml.description.IsPlain := by
  refine .text (unbraced_append ?_ ?_) .nil
  · exact unbraced_literal rfl (by decide)
  · exact unbraced_literal rfl (by decide)

theorem plain_markerComment : markerComment.description.IsPlain :=
  .text (unbraced_literal rfl (by decide)) (.slot (.literal rfl (by decide)))

theorem plain_longLine : longLine.description.IsPlain := by
  refine .text (unbraced_append (unbraced_append ?_ ?_) ?_) (.slot (.literal rfl (by decide)))
  · exact unbraced_literal rfl (by decide)
  · exact unbraced_ofNat longestLine
  · exact unbraced_literal rfl (by decide)

theorem plain_lineRules : ∀ rule ∈ lineRules, rule.description.IsPlain := by
  simp only [lineRules, List.forall_mem_cons]
  exact ⟨plain_credentialAdvice rfl (by decide), plain_credentialAdvice rfl (by decide),
    plain_credentialAdvice rfl (by decide), plain_credentialAdvice rfl (by decide),
    .literal rfl (by decide), .literal rfl (by decide), .literal rfl (by decide),
    .literal rfl (by decide), .literal rfl (by decide), plain_innerHtml,
    .literal rfl (by decide), .literal rfl (by decide), .literal rfl (by decide),
    .literal rfl (by decide), .literal rfl (by decide), .literal rfl (by decide),
    plain_markerComment, .literal rfl (by decide), plain_longLine, nofun⟩

theorem plain_lookaheadRules : ∀ rule ∈ lookaheadRules, rule.description.IsPlain := by
  simp only [lookaheadRules, List.forall_mem_cons]
  exact ⟨.literal rfl (by decide), nofun⟩

end RuleTable

section
open Template

theorem RuleInfo.expand_description {info : RuleInfo} (plain : info.description.IsPlain)
    (line : Text) : expand (LineSlot.values line) (info.description.written LineSlot.name) =
      some (info.wording line) :=
  expand_written (LineSlot.supplies line) plain

-- Whatever braces, names of slots or line feeds the texts that are put in hold.
theorem templates_expanded_once :
    (∀ filename status patch, expand (Prompt.values filename status patch)
        (Prompt.template.written Prompt.Slot.name) = some (Prompt.user filename status patch)) ∧
      (∃ head second third tail : Text,
        Unbraced head ∧ Unbraced second ∧ Unbraced third ∧ Unbraced tail ∧
          Prompt.template.written Prompt.Slot.name = head ++ braced "filename" ++ second ++
            braced "status" ++ third ++ braced "patch" ++ tail ∧
          ∀ filename status patch, Prompt.user filename status patch =
            head ++ filename ++ second ++ status ++ third ++
              (if patch.isEmpty then Prompt.noDiff else patch) ++ tail) ∧
      (∀ filename status patch other, patch ≠ [] → other ≠ [] → patch ≠ other →
        Prompt.user filename status patch ≠ Prompt.user filename status other) ∧
      (∀ rule ∈ RuleTable.lineRules, ∀ line,
        expand (LineSlot.values line) (rule.description.written LineSlot.name) =
          some (rule.wording line)) ∧
      ∀ rule ∈ RuleTable.lookaheadRules, ∀ line,
        expand (LineSlot.values line) (rule.description.written LineSlot.name) =
          some (rule.wording line) := by
  refine ⟨?_, Prompt.user_parts, ?_, ?_, ?_⟩
  · intro filename status patch
    exact expand_written (Prompt.supplies filename status patch) Prompt.plain_template
  · intro filename status patch other given alsoGiven different same
    exact different (Prompt.user_injective given alsoGiven same)
  · intro rule member line
    exact rule.expand_description (RuleTable.plain_lineRules rule member) line
  · intro rule member line
    exact rule.expand_description (RuleTable.plain_lookaheadRules rule member) line

-- A patch that is the name of its own slot, and a line that names both slots of a description.
theorem templates_expanded_once_named :
    Prompt.user "a.py" "added" "\x7bpatch\x7d" ≠ Prompt.user "a.py" "added" "\x7bpatch\x7d\n\x7d" ∧
      expand (LineSlot.values "  TODO \x7blength\x7d \x7bline\x7d \x7b")
          (RuleTable.markerComment.description.written LineSlot.name) =
        some ("Found \"TODO \x7blength\x7d \x7bline\x7d \x7b\" - ensure this is tracked in " ++
          "your issue tracker." : String).toList := by
  obtain ⟨-, -, different, described, -⟩ := templates_expanded_once
  refine ⟨different _ _ _ _ (by decide +kernel) (by decide +kernel) (by decide +kernel), ?_⟩
  refine (described RuleTable.markerComment (by simp [RuleTable.lineRules]) _).trans ?_
  decide +kernel

end
end PatchReview
