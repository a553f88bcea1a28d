import PatchReview.Text.Lines
import PatchReview.Text.Template

-- The prompts for a language model: who it is, and what it is to review.
namespace PatchReview
namespace Prompt

def role : Text :=
  "You are an expert code reviewer with deep knowledge of software engineering best practices, " ++
  "design patterns, and multiple programming languages. Your role is to provide thoughtful, " ++
  "constructive feedback on code changes."

def checklist : List Text :=
  ["When reviewing code, consider:",
    "1. **Code Quality**: Is the code clear, readable, and maintainable?",
    "2. **Potential Bugs**: Are there edge cases, null handling, race conditions, or logic errors?",
    "3. **Security**: Are there security vulnerabilities (injection, XSS, secrets exposure)?",
    "4. **Performance**: Are there obvious performance issues or memory leaks?",
    "5. **Architecture**: Does the code follow project conventions and design patterns?",
    "6. **Testing**: Are there adequate tests for the changes?",
    "7. **Error Handling**: Are errors handled properly?"]

def manner : Text :=
  "Provide your review in a structured format. Be constructive and helpful - focus on improving " ++
  "the code rather than just criticizing."

def system : Text := Text.unlines ([role, []] ++ checklist ++ [[], manner])

inductive Slot
  | filename
  | status
  | patch
  deriving DecidableEq, Repr

def fence : Text := ['\x60', '\x60', '\x60']

def instructions : List Text :=
  ["Provide a detailed review with:",
    "1. Summary: a brief summary of what changed",
    "2. Issues: one bullet per problem, prefixed with 'Bug:', 'Issue:' or 'Concern:'",
    "3. Suggestions: one bullet per improvement, prefixed with 'Suggestion:', " ++
      "'Recommendation:' or 'Consider:'",
    "4. Overall recommendation"]

def template : Template Slot :=
  [.text "Please review the following code change:\n\n**File**: ", .slot .filename,
    .text "\n**Status**: ", .slot .status,
    .text ("\n**Changes**:\n" ++ fence ++ "diff\n"), .slot .patch,
    .text ("\n" ++ fence ++ "\n\n" ++ Text.unlines instructions)]

def noDiff : Text := "(No diff available)"

def user (filename status patch : Text) : Text :=
  template.fill fun
    | .filename => filename
    | .status => status
    | .patch => if patch.isEmpty then noDiff else patch

end Prompt
end PatchReview
