import PatchReview.Diff.Hunk

-- The lines that stand around hunks: which files a block compares, modes, names, and binary files.
-- Each recogniser looks at one line with its line feed.
namespace PatchReview.Diff

def isNameChar (c : Char) : Bool := c ≠ '\t' && c ≠ '\n'

-- Splits at a space, latest space first, so that the left side is as long as possible.
def spaceSplits (text : Text) : List (Text × Text) :=
  (Text.splits text).reverse.filterMap fun (left, right) =>
    match right with
    | ' ' :: rest => some (left, rest)
    | _ => none

-- A name with the given start, perhaps quoted, and at least one more character.
def isPlaced (start name : Text) : Bool :=
  let bare :=
    match name with
    | '"' :: rest => rest
    | rest => rest
  match Text.after? start bare with
  | some (_ :: _) => true
  | _ => false

-- The part of a text through the last `://` that is followed by a name, and that name.
def address? (text : Text) : Option (Text × Text) :=
  (Text.splits text).reverse.findSome? fun (left, right) =>
    match Text.after? "://" right with
    | some rest =>
      match rest.takeWhile isNameChar with
      | [] => none
      | name => some (left ++ "://", name)
    | none => none

-- Names under `a/` and `b/`.
def placedNames? (rest : Text) : Option (Text × Text) :=
  (spaceSplits (rest.takeWhile isNameChar)).find? fun (left, right) =>
    isPlaced "a/" left && isPlaced "b/" right

-- Names that are addresses; only what follows `://` may hold no tab.
def addressNames? (rest : Text) : Option (Text × Text) :=
  (spaceSplits (beforeLineFeed rest)).findSome? fun (left, right) =>
    match address? left, address? right with
    | some (start, name), some (start', name') =>
      if start ++ name = left then some (left, start' ++ name') else none
    | _, _ => none

-- Any two names that are not empty.
def bareNames? (rest : Text) : Option (Text × Text) :=
  (spaceSplits (rest.takeWhile isNameChar)).find? fun (left, right) =>
    !left.isEmpty && !right.isEmpty

def comparedNames? (line : Text) : Option (Text × Text) :=
  (Text.after? "diff --git " line).bind fun rest =>
    ((placedNames? rest).orElse fun _ => addressNames? rest).orElse fun _ => bareNames? rest

def atLineFeed (text : Text) : Bool := text = [] || text = ['\n']

-- The given start, digits, and nothing else on the line.
def isNumbered (start line : Text) : Bool :=
  match Text.after? start line with
  | none => false
  | some rest =>
    !(rest.takeWhile Text.isDigit).isEmpty && atLineFeed (rest.dropWhile Text.isDigit)

def isNewFile (line : Text) : Bool := isNumbered "new file mode " line

def isDeletedFile (line : Text) : Bool := isNumbered "deleted file mode " line

def isHex (c : Char) : Bool := ('0' ≤ c && c ≤ '9') || ('a' ≤ c && c ≤ 'f')

-- The two blob names of a change, and its mode.
def isIndex (line : Text) : Bool :=
  match Text.after? "index " line with
  | none => false
  | some rest =>
    match Text.after? ".." (rest.dropWhile isHex) with
    | none => false
    | some more =>
      !(rest.takeWhile isHex).isEmpty && !(more.takeWhile isHex).isEmpty &&
        isNumbered " " (more.dropWhile isHex)

def isModeChange (line : Text) : Bool :=
  isNumbered "old mode " line || isNumbered "new mode " line || isIndex line

def nameAfter? (start line : Text) : Option Text :=
  (Text.after? start line).map (·.takeWhile isNameChar)

def sourceName? (line : Text) : Option Text := nameAfter? "--- " line

def targetName? (line : Text) : Option Text := nameAfter? "+++ " line

def noFinalNewline : Text := "\\ No newline at end of file"

def isStampChar (c : Char) : Bool :=
  Text.isBlank c || ('0' ≤ c && c ≤ '9') || "+-:".toList.contains c

-- What may follow a name: the rest after a tab and a time stamp, longest stamp first, or all of it.
def afterStamp (text : Text) : List Text :=
  match text with
  | '\t' :: rest =>
    let stamp := rest.takeWhile isStampChar
    ((List.range stamp.length).map fun shorter => rest.drop (stamp.length - shorter)) ++ [text]
  | _ => [text]

def saysDifferent (text : Text) : Bool :=
  Text.startsWith text " differ" || Text.startsWith text " has changed"

-- Shortest name first: a name is followed by an optional stamp and then by what `next` accepts.
def nameThen {α : Type} (text : Text) (next : Text → Text → Option α) : Option α :=
  (Text.splits text).findSome? fun (name, rest) =>
    if name.isEmpty || name.contains '\t' then none
    else (afterStamp rest).findSome? (next name)

-- The names of binary files that are reported to differ; the second may be left out.
def binaryNames? (line : Text) : Option (Text × Option Text) :=
  let start := (Text.after? "Binary files " line).orElse fun _ => Text.after? "Binary file " line
  start.bind fun rest =>
    nameThen rest fun source more =>
      let second := (Text.after? " and " more).bind fun others =>
        nameThen others fun target last =>
          if saysDifferent last then some (source, some target) else none
      second.orElse fun _ => if saysDifferent more then some (source, none) else none

end PatchReview.Diff
