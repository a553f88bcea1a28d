import PatchReview.Rule.Basic

-- The rules themselves, in the order in which they are tried.
namespace PatchReview
namespace RuleTable

open Pattern

def longestLine : Nat := 120

def blanks : Pattern := any .blank

def someBlanks : Pattern := Pattern.some .blank

def quoteMark : Pattern := char .quote

def isOneOf (members : Text) : Pattern := char (.oneOf members)

def anythingInLine : Pattern := any .inLine

-- `name`, then `=` or `:`, then a quoted text that is not empty.
def assignedText (name : Pattern) : Pattern :=
  seqs [name, blanks, isOneOf ":=", blanks, quoteMark, Pattern.some (.except .quote), quoteMark]

def credentialAdvice (what : Text) : Template LineSlot :=
  [.text ("Potential hardcoded credential detected (" ++ what ++
    "). Use environment variables instead.")]

def securityRule (name : Text) (severity : Severity) (description : Template LineSlot)
    (pattern : Pattern) : LineRule :=
  { name, category := .security, severity, description, pattern }

def hardcodedPassword : LineRule :=
  securityRule "Hardcoded Password" .high (credentialAdvice "password")
    (assignedText (anyCase "password"))

def hardcodedApiKey : LineRule :=
  securityRule "Hardcoded API Key" .high (credentialAdvice "API key")
    (assignedText (seqs [anyCase "api", optional (isOneOf "_-"), anyCase "key"]))

def hardcodedSecret : LineRule :=
  securityRule "Hardcoded Secret" .high (credentialAdvice "secret")
    (assignedText (anyCase "secret"))

def genericToken : LineRule :=
  securityRule "Generic Token" .medium (credentialAdvice "token")
    (seqs [anyCase "token", blanks, isOneOf ":=", blanks, quoteMark,
      many (.anyCase (.either .alphanumeric (.oneOf "_-"))) 20 none, quoteMark])

def databaseUrl : LineRule :=
  securityRule "Database URL" .high
    [.text "Database connection string with inline credentials. Move it to configuration."]
    (seqs [
      alts [anyCase "mysql", seqs [anyCase "postgres", optional (anyCase "ql")],
        seqs [anyCase "mongodb", optional (anyCase "+srv")]],
      exactly "://", Pattern.some (.except (.either (.oneOf ":/") .blank)), exactly ":",
      Pattern.some (.except (.either (.oneOf "@") .blank)), exactly "@"])

def awsKey : LineRule :=
  securityRule "AWS Key" .critical
    [.text "AWS access key ID detected. Revoke it and load credentials from the environment."]
    (seqs [wordEdge, alts [exactly "AKIA", exactly "ASIA"],
      many (.either (.range 'A' 'Z') (.range '0' '9')) 16 (Option.some 16), wordEdge])

def gitHubToken : LineRule :=
  securityRule "GitHub Token" .critical
    [.text "GitHub token detected. Revoke it and use a secret store instead."]
    (seqs [wordEdge, exactly "gh", isOneOf "pousr", exactly "_", many .alphanumeric 36 none])

def privateKey : LineRule :=
  securityRule "Private Key" .critical
    [.text "Private key committed to the repository. Remove it and rotate the key."]
    (seqs [exactly "-----", anyCase "BEGIN", someBlanks,
      optional (alts [seqs [anyCase "RSA", someBlanks], seqs [anyCase "EC", someBlanks],
        seqs [anyCase "DSA", someBlanks], seqs [anyCase "OPENSSH", someBlanks]]),
      anyCase "PRIVATE", someBlanks, anyCase "KEY", exactly "-----"])

def evalUsage : LineRule :=
  securityRule "Eval Usage" .high
    [.text "eval() executes arbitrary code. Avoid dynamic code execution."]
    (seqs [wordEdge, anyCase "eval", blanks, exactly "("])

def innerHtml : LineRule :=
  securityRule "Inner HTML" .medium
    [.text ("Assigning to innerHTML can introduce XSS. " ++
      "Use textContent or sanitize the markup.")]
    (seqs [exactly ".", anyCase "innerHTML", blanks, exactly "=", notAhead (exactly "=")])

def commandInjection : LineRule :=
  securityRule "Command Injection" .high
    [.text "Shell command built at runtime. Pass arguments as a list and avoid the shell."]
    (seqs [wordEdge,
      alts [
        seqs [anyCase "exec", optional (anyCase "Sync"), blanks, exactly "(", blanks,
          Pattern.some (.except (.oneOf ")")), exactly ")"],
        seqs [anyCase "os.system", blanks, exactly "("],
        seqs [anyCase "shell", blanks, exactly "=", blanks, anyCase "True"]]])

def sqlInjection : LineRule :=
  securityRule "SQL Injection Risk" .medium
    [.text "String concatenation that may build a query. Use parameterized queries."]
    (seqs [quoteMark, blanks, exactly "+", blanks, Pattern.some (.except (.oneOf ";")), exactly "+",
      blanks, quoteMark])

def weakCrypto : LineRule :=
  securityRule "Weak Crypto" .medium
    [.text "Weak hash algorithm (MD5/SHA-1). Use SHA-256 or a password hashing function."]
    (seqs [wordEdge, alts [anyCase "md5", anyCase "sha1"], wordEdge])

def disabledSsl : LineRule :=
  securityRule "Disabled SSL" .high
    [.text "Certificate validation is disabled. Keep TLS verification enabled."]
    (alt (seqs [anyCase "rejectUnauthorized", blanks, exactly ":", blanks, anyCase "false"])
      (seqs [anyCase "verify", blanks, exactly "=", blanks, anyCase "False"]))

def debugMode : LineRule :=
  securityRule "Debug Mode" .low
    [.text "Debug mode enabled. Make sure it is off in production."]
    (seqs [wordEdge, anyCase "debug", blanks, isOneOf ":=", blanks, anyCase "true", wordEdge])

def debugStatement : LineRule :=
  { name := "Debug Statement", category := .style, severity := .low,
    description := [.text "Debug statement found. Consider removing before merging."]
    pattern :=
      alt (seqs [anyCase "console.", alts [anyCase "log", anyCase "debug"], blanks, exactly "("])
        (seqs [wordEdge, anyCase "print", blanks, exactly "("]) }

def markerComment : LineRule :=
  { name := "Marker Comment", category := .maintenance, severity := .low,
    description :=
      [.text "Found \"", .slot .line, .text "\" - ensure this is tracked in your issue tracker."]
    pattern := seqs [wordEdge, alts [exactly "TODO", exactly "FIXME", exactly "HACK"], wordEdge] }

def promiseChain : LineRule :=
  { name := "Promise Chain", category := .potentialBug, severity := .low,
    description :=
      [.text "Promise chain detected. Consider using async/await for better readability."]
    pattern :=
      seqs [textStart, notAhead (seqs [anythingInLine, wordEdge, exactly "await", wordEdge]),
        anythingInLine, exactly ".then", blanks, exactly "("] }

def longLine : LineRule :=
  { name := "Long Line", category := .style, severity := .low,
    description :=
      [.text ("Line exceeds " ++ Text.ofNat longestLine ++ " characters ("), .slot .length,
        .text " chars). Consider breaking it up."]
    pattern := seqs [textStart, many .inLine (longestLine + 1) none, textEnd] }

def lineRules : List LineRule :=
  [hardcodedPassword, hardcodedApiKey, hardcodedSecret, genericToken, databaseUrl, awsKey,
    gitHubToken, privateKey, evalUsage, innerHtml, commandInjection, sqlInjection, weakCrypto,
    disabledSsl, debugMode, debugStatement, markerComment, promiseChain, longLine]

def emptyCatch : LookaheadRule :=
  { name := "Empty Catch Block", category := .bestPractice, severity := .low,
    description := [.text "Empty catch block detected. Consider at least logging the error."]
    pattern :=
      alt (seqs [wordEdge, exactly "catch", wordEdge]) (seqs [wordEdge, exactly "except", wordEdge])
    next := alt (exactly "\x7d") (exactly "pass") }

def lookaheadRules : List LookaheadRule := [emptyCatch]

def legacyVar : PatchRule :=
  { name := "Legacy Var Declaration", category := .style, severity := .low,
    description := [.text "Use \"let\" or \"const\" instead of \"var\" for better scoping."]
    pattern := seqs [wordEdge, exactly "var", char .blank]
    extensions := ["cjs", "js", "jsx", "mjs", "ts", "tsx"] }

def patchRules : List PatchRule := [legacyVar]

def allRules : List Rule :=
  lineRules.map .line ++ lookaheadRules.map .lookahead ++ patchRules.map .patch

-- Every line rule that matches a line, in the order of the table.
def firing (line : Text) : List (Text × Severity) :=
  (lineRules.filter (·.fires line)).map fun rule => (rule.name, rule.severity)

end RuleTable
end PatchReview
