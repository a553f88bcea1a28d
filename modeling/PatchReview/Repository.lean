import PatchReview.World

-- Names of repositories: an owner and a name with one slash between them.
namespace PatchReview
namespace Repository

def isNameChar (c : Char) : Bool := Text.isWord c || c = '.' || c = '-'

-- A final line feed after the name is let through.
def isValid (name : Text) : Bool :=
  let owner := name.takeWhile isNameChar
  match name.dropWhile isNameChar with
  | '/' :: rest =>
    !owner.isEmpty && !(rest.takeWhile isNameChar).isEmpty &&
      (rest.dropWhile isNameChar = [] || rest.dropWhile isNameChar = ['\n'])
  | _ => false

def validate (name : Text) : Run Text :=
  if isValid name then pure name else Run.refuse (.repository (.string name))

-- Only a text can be a name at all, and surrogates are no name characters.
def validateGiven : Json → Run Text
  | .string name => validate name
  | .illFormed points => Run.refuse (.repository (.illFormed points))
  | _ => throw .wrongKind

end Repository
end PatchReview
