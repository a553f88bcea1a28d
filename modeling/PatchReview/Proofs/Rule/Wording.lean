import PatchReview.Proofs.Text.Lines
import PatchReview.Proofs.Text.Numeral
import PatchReview.Proofs.Text.Trim
import PatchReview.Rule.Table

-- What the rules say stays in one line: their descriptions have no line feed of their own, and what
-- they say about a line is part of it.
namespace PatchReview

-- The fixed parts of a template stay in one line.
inductive Template.IsOneLine {Slot : Type} : Template Slot → Prop
  | nil : IsOneLine []
  | text {t : Text} {rest : Template Slot} (inside : '\n' ∉ t) (later : IsOneLine rest) :
      IsOneLine (.text t :: rest)
  | slot {s : Slot} {rest : Template Slot} (later : IsOneLine rest) : IsOneLine (.slot s :: rest)

namespace Template.IsOneLine

variable {Slot : Type} {template : Template Slot}

theorem fill {value : Slot → Text} (fixed : template.IsOneLine) (values : ∀ s, '\n' ∉ value s) :
    '\n' ∉ template.fill value := by
  induction fixed with
  | nil => exact List.not_mem_nil
  | text inside _ ih => exact List.not_mem_append inside ih
  | slot _ ih => exact List.not_mem_append (values _) ih

theorem literal {words : String} {characters : List Char}
    (spelled : words = String.ofList characters) (clear : '\n' ∉ characters) :
    IsOneLine ([.text words.toList] : Template Slot) :=
  .text (Text.not_mem_literal spelled clear) .nil

end Template.IsOneLine

theorem RuleInfo.newline_wording {info : RuleInfo} (fixed : info.description.IsOneLine)
    {line : Text} (inside : '\n' ∉ line) : '\n' ∉ info.wording line := by
  apply fixed.fill
  rintro (_ | _)
  · exact Text.newline_trim inside
  · exact Text.newline_ofNat line.length

namespace RuleTable

theorem oneLine_credentialAdvice {what : String} {characters : List Char}
    (spelled : what = String.ofList characters) (clear : '\n' ∉ characters) :
    (credentialAdvice what).IsOneLine := by
  refine .text (List.not_mem_append (List.not_mem_append ?_ ?_) ?_) .nil
  · exact Text.not_mem_literal rfl (by decide)
  · exact Text.not_mem_literal spelled clear
  · exact Text.not_mem_literal rfl (by decide)

theorem oneLine_innerHtml : innerHtml.description.IsOneLine := by
  refine .text (List.not_mem_append ?_ ?_) .nil
  · exact Text.not_mem_literal rfl (by decide)
  · exact Text.not_mem_literal rfl (by decide)

theorem oneLine_markerComment : markerComment.description.IsOneLine := by
  refine .text ?_ (.slot (.literal rfl ?_))
  · exact Text.not_mem_literal rfl (by decide)
  · decide

theorem oneLine_longLine : longLine.description.IsOneLine := by
  refine .text (List.not_mem_append (List.not_mem_append ?_ ?_) ?_) (.slot (.literal rfl ?_))
  · exact Text.not_mem_literal rfl (by decide)
  · exact Text.newline_ofNat longestLine
  · exact Text.not_mem_literal rfl (by decide)
  · decide

theorem oneLine_lineRules : ∀ rule ∈ lineRules, rule.description.IsOneLine := by
  simp only [lineRules, List.forall_mem_cons]
  exact ⟨oneLine_credentialAdvice rfl (by decide), oneLine_credentialAdvice rfl (by decide),
    oneLine_credentialAdvice rfl (by decide), oneLine_credentialAdvice rfl (by decide),
    .literal rfl (by decide), .literal rfl (by decide), .literal rfl (by decide),
    .literal rfl (by decide), .literal rfl (by decide), oneLine_innerHtml,
    .literal rfl (by decide), .literal rfl (by decide), .literal rfl (by decide),
    .literal rfl (by decide), .literal rfl (by decide), .literal rfl (by decide),
    oneLine_markerComment, .literal rfl (by decide), oneLine_longLine, nofun⟩

theorem oneLine_lookaheadRules : ∀ rule ∈ lookaheadRules, rule.description.IsOneLine := by
  simp only [lookaheadRules, List.forall_mem_cons]
  exact ⟨.literal rfl (by decide), nofun⟩

theorem oneLine_patchRules : ∀ rule ∈ patchRules, rule.description.IsOneLine := by
  simp only [patchRules, List.forall_mem_cons]
  exact ⟨.literal rfl (by decide), nofun⟩

theorem newline_finding {rule : PatchRule} (listed : rule ∈ patchRules) :
    '\n' ∉ rule.finding.description := by
  apply (oneLine_patchRules rule listed).fill
  rintro (_ | _) <;> decide

end RuleTable
end PatchReview
