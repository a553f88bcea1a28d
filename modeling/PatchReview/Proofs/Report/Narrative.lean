import PatchReview.Proofs.Report.Stats
import PatchReview.Proofs.Reviewing.EachFile
import PatchReview.Proofs.Text.Lines
import PatchReview.Proofs.Text.Numeral

-- The account of a pull request can be read back.  The files with issues and what is said about
-- them stand under one heading that no name, title or description can imitate, so they are found in
-- the lines again, and there are as many issues there as the overview says.
namespace PatchReview
namespace Narrative

def issuesHeading : Text := "### Issues by File"

def issueMark : Text := "- "

def nameMark : Text := "**"

def totalMark : Text := "- **Issues Found**: "

-- An empty line, a line of dashes and the footer.
def closing : List Text := [[], "---", "*Reviewed with " ++ product ++ "*"]

-- The files with issues, each with what is said about it.
def listed (files : List ReviewedFile) : List (Text × List Text) :=
  (files.filter fun file => !file.analysis.issues.isEmpty).map fun file =>
    (file.filename, file.analysis.issues.map (·.description))

-- How a file and its issues are written, line by line.
def entryLines (entry : Text × List Text) : List Text :=
  [] :: (nameMark ++ entry.1 ++ nameMark) :: entry.2.map (issueMark ++ ·)

-- Lines are read from the last one on: an issue waits for the name that it stands under.
def readLine (line : Text) (read : List Text × List (Text × List Text)) :
    List Text × List (Text × List Text) :=
  match Text.after? issueMark line with
  | some issue => (issue :: read.1, read.2)
  | none =>
    match Text.after? nameMark line with
    | some name => ([], (name.dropLast.dropLast, read.1) :: read.2)
    | none => read

-- The heading and what follows it, if it is there.
def fromHeading (account : List Text) : List Text := account.dropWhile (· ≠ issuesHeading)

def issuesRead (account : List Text) : List (Text × List Text) :=
  ((fromHeading account).foldr readLine ([], [])).2

def issueLines (account : List Text) : Nat :=
  (fromHeading account).countP (Text.startsWith · issueMark)

section
variable (read : List Text × List (Text × List Text))

theorem readLine_issue (issue : Text) :
    readLine (issueMark ++ issue) read = (issue :: read.1, read.2) := by
  unfold readLine
  rw [Text.after?_append]

theorem readLine_name (name : Text) :
    readLine (nameMark ++ name ++ nameMark) read = ([], (name, read.1) :: read.2) := by
  have other : Text.after? issueMark (nameMark ++ (name ++ nameMark)) = none := rfl
  have ended : name ++ nameMark = (name ++ ['*']) ++ ['*'] := by
    rw [List.append_assoc]
    rfl
  unfold readLine
  rw [List.append_assoc, other, Text.after?_append, ended]
  dsimp only
  rw [List.dropLast_concat, List.dropLast_concat]

theorem read_issues (issues : List Text) :
    (issues.map (issueMark ++ ·)).foldr readLine read = (issues ++ read.1, read.2) := by
  induction issues with
  | nil => rfl
  | cons issue rest ih => rw [List.map_cons, List.foldr_cons, ih, readLine_issue, List.cons_append]

end

theorem read_entries (entries : List (Text × List Text)) :
    (entries.flatMap entryLines).foldr readLine ([], []) = ([], entries) := by
  induction entries with
  | nil => rfl
  | cons entry rest ih =>
    have blank (read : List Text × List (Text × List Text)) : readLine [] read = read := rfl
    rw [List.flatMap_cons, List.foldr_append, ih, entryLines, List.foldr_cons, List.foldr_cons,
      read_issues, readLine_name, blank, List.append_nil]

theorem count_entry (entry : Text × List Text) :
    (entryLines entry).countP (Text.startsWith · issueMark) = entry.2.length := by
  have each (issue : Text) : Text.startsWith (issueMark ++ issue) issueMark = true := by
    unfold Text.startsWith
    rw [Text.after?_append]
    rfl
  have name : Text.startsWith (nameMark ++ (entry.1 ++ nameMark)) issueMark = false := rfl
  have all : (entry.2.map (issueMark ++ ·)).countP (Text.startsWith · issueMark) =
      entry.2.length := by
    rw [List.countP_map, List.countP_eq_length]
    exact fun issue _ => each issue
  rw [entryLines, List.append_assoc, List.countP_cons_of_neg (by decide),
    List.countP_cons_of_neg (by simp [name]), all]

theorem heading_entry {entry : Text × List Text} : issuesHeading ∉ entryLines entry := by
  unfold entryLines
  simp only [List.mem_cons, List.mem_map, not_or, not_exists, not_and]
  refine ⟨by decide, ?_, ?_⟩
  · intro same
    cases same
  · intro issue _ same
    cases same

section
variable {files : List ReviewedFile}

theorem listed_eq_nil_iff : listed files = [] ↔ ∀ file ∈ files, file.analysis.issues = [] := by
  unfold listed
  rw [List.map_eq_nil_iff, List.filter_eq_nil_iff]
  simp

theorem listed_cons_clear {file : ReviewedFile} (clear : file.analysis.issues = [])
    (rest : List ReviewedFile) : listed (file :: rest) = listed rest := by
  unfold listed
  rw [List.filter_cons_of_neg (by simp [clear])]

theorem listed_cons_flawed {file : ReviewedFile} (flawed : file.analysis.issues ≠ [])
    (rest : List ReviewedFile) : listed (file :: rest) =
      (file.filename, file.analysis.issues.map (·.description)) :: listed rest := by
  unfold listed
  rw [List.filter_cons_of_pos (by simpa using flawed), List.map_cons]

theorem sum_listed : ((listed files).map (·.2.length)).sum =
    (files.map fun file => file.analysis.issues.length).sum := by
  induction files with
  | nil => rfl
  | cons file rest ih =>
    by_cases clear : file.analysis.issues = []
    · rw [listed_cons_clear clear, ih, List.map_cons, List.sum_cons, clear, List.length_nil,
        Nat.zero_add]
    · rw [listed_cons_flawed clear, List.map_cons, List.sum_cons, ih, List.length_map,
        List.map_cons, List.sum_cons]

-- Names and descriptions without a line feed stay in the lines that are theirs.
theorem lines_fileIssues (named : ∀ file ∈ files, '\n' ∉ file.filename ∧
      ∀ issue ∈ file.analysis.issues, '\n' ∉ issue.description) :
    (files.flatMap fileIssues).flatMap Text.lines = (listed files).flatMap entryLines := by
  induction files with
  | nil => rfl
  | cons file rest ih =>
    obtain ⟨⟨name, issues⟩, later⟩ := List.forall_mem_cons.mp named
    rw [List.flatMap_cons, List.flatMap_append, ih later]
    by_cases clear : file.analysis.issues = []
    · rw [listed_cons_clear clear, fileIssues, clear]
      rfl
    · have title : Text.lines (("\n**" : Text) ++ file.filename ++ "**") =
          [[], nameMark ++ file.filename ++ nameMark] := by
        have inside : '\n' ∉ nameMark ++ file.filename ++ nameMark :=
          List.not_mem_append (List.not_mem_append (by decide) name) (by decide)
        exact (Text.lines_lineFeed [] _).trans (congrArg _ (Text.lines_single inside))
      have bullets : (file.analysis.issues.map fun issue => issueMark ++ issue.description).flatMap
          Text.lines = file.analysis.issues.map fun issue => issueMark ++ issue.description := by
        apply Text.flatMap_lines
        rw [List.forall_mem_map]
        exact fun issue member => List.not_mem_append (by decide) (issues issue member)
      rw [listed_cons_flawed clear, fileIssues, if_neg (by simpa using clear), List.flatMap_cons,
        title, List.flatMap_cons, entryLines, List.map_map]
      exact congrArg (· ++ _) (congrArg ([[], nameMark ++ file.filename ++ nameMark] ++ ·) bullets)

end

-- A row that begins otherwise than the heading is not the heading, with or without a line feed.
theorem issuesHeading_ne {label : String} {first : Char} {characters : List Char}
    (spelled : label = String.ofList (first :: characters)) (other : first ≠ '#') (rest : Text) :
    issuesHeading ≠ label.toList ++ rest := by
  have begins : issuesHeading.head? = some '#' := rfl
  intro same
  rw [same, spelled, String.toList_ofList] at begins
  exact other (Option.some.inj begins)

theorem heading_row {row : Text} (inside : '\n' ∉ row) (other : issuesHeading ≠ row) :
    issuesHeading ∉ Text.lines row := by
  rw [Text.lines_single inside, List.mem_singleton]
  exact other

theorem heading_ended {row : Text} (inside : '\n' ∉ row) (other : issuesHeading ≠ row) :
    issuesHeading ∉ Text.lines (row ++ ['\n']) := by
  rw [Text.lines_row inside, List.mem_cons, not_or]
  exact ⟨other, by decide⟩

theorem newline_total {label : String} {characters : List Char}
    (spelled : label = String.ofList characters) (clear : '\n' ∉ characters) (n : Int) :
    '\n' ∉ label.toList ++ Text.ofInt n :=
  Text.not_mem_labelled spelled clear (Text.not_mem_ofInt rfl (by decide) n)

section
variable (stats : ReviewStats)

def overviewLines : List Text :=
  ["## Code Review Summary", [],
    "Analyzed " ++ Text.ofInt stats.files ++ " file(s) with " ++ product ++ ".", [],
    "### Overview",
    "- **Files Changed**: " ++ Text.ofInt stats.files,
    totalMark ++ Text.ofInt stats.issues,
    "- **Suggestions**: " ++ Text.ofInt stats.suggestions,
    "- **Security Concerns**: " ++ Text.ofInt stats.security, []]

theorem lines_overview : (overview stats).flatMap Text.lines = overviewLines stats := by
  have analyzed : '\n' ∉
      ("Analyzed " ++ Text.ofInt stats.files ++ " file(s) with " ++ product ++ "." : Text) := by
    refine List.not_mem_append (List.not_mem_append (List.not_mem_append
      (newline_total rfl (by decide) _) ?_) ?_) ?_
    · exact Text.not_mem_literal rfl (by decide)
    · exact Text.not_mem_literal rfl (by decide)
    · exact Text.not_mem_literal rfl (by decide)
  have ended : Text.lines
      ("Analyzed " ++ Text.ofInt stats.files ++ " file(s) with " ++ product ++ ".\n") =
        ["Analyzed " ++ Text.ofInt stats.files ++ " file(s) with " ++ product ++ ".", []] := by
    rw [← Text.lines_row analyzed]
    simp
  have title : Text.lines "## Code Review Summary\n" = ["## Code Review Summary".toList, []] := rfl
  have heading : Text.lines "### Overview" = ["### Overview".toList] := rfl
  have files : '\n' ∉ "- **Files Changed**: ".toList ++ Text.ofInt stats.files :=
    newline_total rfl (by decide) _
  have issues : '\n' ∉ "- **Issues Found**: ".toList ++ Text.ofInt stats.issues :=
    newline_total rfl (by decide) _
  have suggestions : '\n' ∉ "- **Suggestions**: ".toList ++ Text.ofInt stats.suggestions :=
    newline_total rfl (by decide) _
  have security : Text.lines ("- **Security Concerns**: " ++ Text.ofInt stats.security ++ "\n") =
      ["- **Security Concerns**: " ++ Text.ofInt stats.security, []] :=
    Text.lines_row (newline_total rfl (by decide) _)
  unfold overview overviewLines totalMark
  simp only [List.flatMap_cons, List.flatMap_nil, title, ended, heading, Text.lines_single files,
    Text.lines_single issues, Text.lines_single suggestions, security, List.cons_append,
    List.nil_append]

theorem heading_overview : issuesHeading ∉ overviewLines stats := by
  unfold overviewLines totalMark
  simp only [List.mem_cons, not_or, List.append_assoc]
  refine ⟨by decide, by decide, ?_, by decide, by decide, ?_, ?_, ?_, ?_, by decide, by decide⟩
  all_goals exact issuesHeading_ne rfl (by decide) _

theorem total_overview (rest : List Text) :
    (overviewLines stats ++ rest).find? (Text.startsWith · totalMark) =
      some (totalMark ++ Text.ofInt stats.issues) := rfl

theorem heading_securityNote : issuesHeading ∉ (securityNote stats).flatMap Text.lines := by
  unfold securityNote
  split
  · exact List.not_mem_nil
  · have row : '\n' ∉ ("⚠️ **Security**: Found " ++ Text.ofInt stats.security ++
        " potential security concern(s). Please review carefully." : Text) :=
      List.not_mem_append (newline_total rfl (by decide) _) (Text.not_mem_literal rfl (by decide))
    have ended : " potential security concern(s). Please review carefully.\n".toList =
        " potential security concern(s). Please review carefully.".toList ++ ['\n'] := by simp
    rw [List.flatMap_singleton, ended, ← List.append_assoc]
    refine heading_ended row ?_
    rw [List.append_assoc]
    exact issuesHeading_ne rfl (by decide) _

theorem heading_pull {pull : PullHeading} (inside : '\n' ∉ pull.title ∧ '\n' ∉ pull.author ∧
      '\n' ∉ pull.base) : issuesHeading ∉ (heading pull).flatMap Text.lines := by
  obtain ⟨title, author, base⟩ := inside
  unfold heading
  simp only [List.flatMap_cons, List.flatMap_nil, List.append_nil, List.mem_append, not_or]
  refine ⟨by decide, ?_, ?_, ?_⟩
  · exact heading_row (Text.not_mem_labelled rfl (by decide) title)
      (issuesHeading_ne rfl (by decide) _)
  · exact heading_row (Text.not_mem_labelled rfl (by decide) author)
      (issuesHeading_ne rfl (by decide) _)
  · exact heading_ended (Text.not_mem_labelled rfl (by decide) base)
      (issuesHeading_ne rfl (by decide) _)

end

section
variable (files : List ReviewedFile) (stats : ReviewStats)

-- The key findings up to the issues.
def keyOpening (stats : ReviewStats) : List Text :=
  if stats.issues = 0 ∧ stats.security = 0 then [] else "### Key Findings" :: securityNote stats

theorem keyFindings_eq :
    keyFindings files stats = keyOpening stats ++ issuesByFile files stats := by
  unfold keyFindings keyOpening
  split
  · rename_i none
    rw [issuesByFile, if_pos none.1, List.append_nil]
  · rw [List.cons_append]

theorem heading_keyOpening : issuesHeading ∉ (keyOpening stats).flatMap Text.lines := by
  unfold keyOpening
  split
  · exact List.not_mem_nil
  · rw [List.flatMap_cons, List.mem_append, not_or]
    exact ⟨by decide, heading_securityNote stats⟩

end

section
variable {files : List ReviewedFile} {pull : Option PullHeading}

theorem issues_eq_zero_iff : (ReviewStats.ofFiles files).issues = 0 ↔ listed files = [] := by
  unfold ReviewStats.ofFiles
  rw [ReviewStats.total_eq_zero_iff, listed_eq_nil_iff]
  simp only [List.length_eq_zero_iff]

-- What is said about the issues, the heading included.
def issueSection (files : List ReviewedFile) : List Text :=
  if listed files = [] then [] else issuesHeading :: (listed files).flatMap entryLines

variable (named : ∀ file ∈ files, '\n' ∉ file.filename ∧
    ∀ issue ∈ file.analysis.issues, '\n' ∉ issue.description)
include named

theorem lines_issuesByFile : (issuesByFile files (.ofFiles files)).flatMap Text.lines =
    issueSection files := by
  unfold issuesByFile issueSection
  simp only [issues_eq_zero_iff]
  split
  · rfl
  · rw [List.flatMap_cons, lines_fileIssues named]
    rfl

-- The account opens with the overview, and the heading is not in what comes before the issues.
theorem lines_account (headed : ∀ heading, pull = some heading →
      '\n' ∉ heading.title ∧ '\n' ∉ heading.author ∧ '\n' ∉ heading.base) :
    ∃ between, issuesHeading ∉ between ∧
      Text.lines (ofPull files (.ofFiles files) pull) =
        overviewLines (.ofFiles files) ++ (between ++ (issueSection files ++ closing)) := by
  refine ⟨(pull.elim [] heading ++ keyOpening (.ofFiles files)).flatMap Text.lines, ?_, ?_⟩
  · rw [List.flatMap_append, List.mem_append, not_or]
    refine ⟨?_, heading_keyOpening _⟩
    cases pull with
    | none => exact List.not_mem_nil
    | some pull => exact heading_pull (headed pull rfl)
  · have ended : footer.flatMap Text.lines = closing := rfl
    unfold ofPull
    rw [Text.lines_unlines_parts (by simp [overview]), keyFindings_eq]
    simp only [List.flatMap_append, lines_overview, lines_issuesByFile named, ended,
      List.append_assoc]

end

section
variable {files : List ReviewedFile} {before : List Text} (plain : issuesHeading ∉ before)
include plain

theorem fromHeading_account : fromHeading (before ++ (issueSection files ++ closing)) =
    if listed files = [] then [] else issueSection files ++ closing := by
  have skipped : ∀ line ∈ before, decide (line ≠ issuesHeading) = true :=
    fun line member => decide_eq_true fun same => plain (same ▸ member)
  unfold fromHeading issueSection
  rw [List.dropWhile_append_of_pos skipped]
  split
  · rfl
  · exact List.dropWhile_cons_of_neg (by simp)

theorem issuesRead_account : issuesRead (before ++ (issueSection files ++ closing)) =
    listed files := by
  unfold issuesRead
  rw [fromHeading_account plain]
  split
  · rename_i none
    rw [none]
    rfl
  · rename_i some
    have last : closing.foldr readLine ([], []) = ([], []) := rfl
    have first (read : List Text × List (Text × List Text)) : readLine issuesHeading read = read :=
      rfl
    rw [issueSection, if_neg some, List.cons_append, List.foldr_cons, List.foldr_append, last,
      read_entries, first]

theorem issueLines_account : issueLines (before ++ (issueSection files ++ closing)) =
    (files.map fun file => file.analysis.issues.length).sum := by
  have each : (fun entry => (entryLines entry).countP (Text.startsWith · issueMark)) =
      fun entry => entry.2.length := funext count_entry
  unfold issueLines
  rw [fromHeading_account plain, ← sum_listed]
  split
  · rename_i none
    rw [none]
    rfl
  · rename_i some
    have last : closing.countP (Text.startsWith · issueMark) = 0 := rfl
    rw [issueSection, if_neg some, List.cons_append, List.countP_cons_of_neg (by decide),
      List.countP_append, last, Nat.add_zero, List.countP_flatMap]
    exact congrArg (fun size => ((listed files).map size).sum) each

theorem count_heading_account :
    (before ++ (issueSection files ++ closing)).count issuesHeading =
      if listed files = [] then 0 else 1 := by
  have last : closing.count issuesHeading = 0 := rfl
  rw [List.count_append, List.count_append, List.count_eq_zero.mpr plain, last, issueSection]
  split
  · rfl
  · have inside : issuesHeading ∉ (listed files).flatMap entryLines := by
      rw [List.mem_flatMap]
      rintro ⟨entry, -, member⟩
      exact heading_entry member
    rw [List.count_cons_self, List.count_eq_zero.mpr inside]

end

-- How the lines of an account are found to tell the files with issues and what is said about them.
structure ReadsBack (files : List ReviewedFile) (stats : ReviewStats) (account : List Text) :
    Prop where
  once : (∃ file ∈ files, file.analysis.issues ≠ []) → account.count issuesHeading = 1
  never : (∀ file ∈ files, file.analysis.issues = []) → issuesHeading ∉ account
  entries : (∃ file ∈ files, file.analysis.issues ≠ []) → ∃ before,
    account = before ++ issuesHeading :: ((listed files).flatMap entryLines ++ closing)
  recovered : issuesRead account = listed files
  total : account.find? (Text.startsWith · totalMark) =
    some (totalMark ++ Text.ofInt stats.issues)
  counted : (issueLines account : Int) = stats.issues
  sum : stats.issues = ((files.map fun file => file.analysis.issues.length).sum : Nat)

theorem account_read_back (files : List ReviewedFile) (pull : Option PullHeading) (w : World)
    (named : ∀ file ∈ files, '\n' ∉ file.filename ∧
      ∀ issue ∈ file.analysis.issues, '\n' ∉ issue.description)
    (headed : ∀ heading, pull = some heading →
      '\n' ∉ heading.title ∧ '\n' ∉ heading.author ∧ '\n' ∉ heading.base) :
    ∃ review after, (Reviewing.sumUp files .pullRequest pull).on w = (.ok review, after) ∧
      ReadsBack files review.stats (Text.lines review.summary) := by
  refine ⟨_, _, rfl, ?_⟩
  obtain ⟨between, clear, shape⟩ := lines_account named headed
  change ReadsBack files (.ofFiles files) (Text.lines (ofPull files (.ofFiles files) pull))
  have plain : issuesHeading ∉ overviewLines (.ofFiles files) ++ between :=
    List.not_mem_append (heading_overview _) clear
  have flawed (some : ∃ file ∈ files, file.analysis.issues ≠ []) : listed files ≠ [] := by
    rw [ne_eq, listed_eq_nil_iff]
    simpa using some
  rw [shape]
  have total := total_overview (.ofFiles files) (between ++ (issueSection files ++ closing))
  rw [← List.append_assoc] at total ⊢
  exact
    { once := fun some => by rw [count_heading_account plain, if_neg (flawed some)]
      never := fun none => by
        rw [← List.count_eq_zero, count_heading_account plain, if_pos (listed_eq_nil_iff.mpr none)]
      entries := fun some => ⟨_, by rw [issueSection, if_neg (flawed some), List.cons_append]⟩
      recovered := issuesRead_account plain
      total
      counted := congrArg Nat.cast (issueLines_account plain)
      sum := ReviewStats.total_eq_sum _ files }

-- A file named as the heading, an issue described as a name, and a file without issues.
def imitations : List ReviewedFile :=
  [{ filename := "### Issues by File"
     analysis := { filename := "### Issues by File", rating := .neutral, summary := []
                   issues := [{ category := .style, description := "**a.py**" }] } },
   { filename := "a.py", analysis := { filename := "a.py", rating := .good, summary := [] } }]

theorem account_read_back_imitations :
    ∃ review after,
      (Reviewing.sumUp imitations .pullRequest (some { title := "- **Issues Found**: 9" })).on
        { host := { pull number := { number := .int number }, files := [], commits := []
                    reviewId := 1, failures _ := none } } = (.ok review, after) ∧
      issuesRead (Text.lines review.summary) =
        [("### Issues by File".toList, ["**a.py**".toList])] ∧
      (Text.lines review.summary).find? (Text.startsWith · totalMark) =
        some "- **Issues Found**: 1".toList := by
  obtain ⟨review, after, ran, back⟩ :=
    account_read_back imitations (some { title := "- **Issues Found**: 9" })
      { host := { pull number := { number := .int number }, files := [], commits := []
                  reviewId := 1, failures _ := none } } (by decide)
      (fun heading given => by cases given; decide)
  refine ⟨review, after, ran, back.recovered, ?_⟩
  rw [back.total, back.sum]
  decide

end Narrative
end PatchReview
