import LiveSync.Json.Value

/-!
# Key cases

Field names are written in one of two cases, `cvss_score` and `cvssScore`.  Only the letters `A` to
`Z` and `a` to `z` change; underscores in front of a name stay.
-/

namespace LiveSync.Payload

/-- The two ways to write a field name. -/
inductive KeyCase where
  /-- `cvss_score` -/
  | snake
  /-- `cvssScore` -/
  | camel
  deriving DecidableEq, Repr

/-- Each capital becomes a small letter with an underscore in front, unless it stands first or
after an underscore; `before` is the character that precedes. -/
def snakeChars (before : Option Char) : List Char → List Char
  | [] => []
  | c :: cs =>
    if c.isUpper then
      match before with
      | none => c.toLower :: snakeChars (some c) cs
      | some b =>
        if b = '_' then c.toLower :: snakeChars (some c) cs
        else '_' :: c.toLower :: snakeChars (some c) cs
    else c :: snakeChars (some c) cs

/-- An underscore and the small letter after it become a capital once the name has begun: after
the first character that is no underscore. -/
def camelChars (begun : Bool) : List Char → List Char
  | [] => []
  | '_' :: c :: cs =>
    if begun && c.isLower then c.toUpper :: camelChars true cs
    else '_' :: camelChars begun (c :: cs)
  | c :: cs => c :: camelChars (begun || c != '_') cs

/-- The name in snake case. -/
def toSnake (key : String) : String :=
  String.ofList (snakeChars none key.toList)

/-- The name in camel case. -/
def toCamel (key : String) : String :=
  String.ofList (camelChars false key.toList)

/-- The name in the given case. -/
def KeyCase.apply (case : KeyCase) (key : String) : String :=
  match case with
  | .snake => toSnake key
  | .camel => toCamel key

/-- The word that stands for a case in an options file. -/
def KeyCase.name : KeyCase → String
  | .snake => "snake"
  | .camel => "camel"

/-- The case that a word stands for. -/
def KeyCase.ofName? (name : String) : Option KeyCase :=
  if name = "snake" then some .snake else if name = "camel" then some .camel else none

/-- Is the text a name whose case may change: underscores alone, or underscores, a small letter and
then letters, digits and underscores? -/
def isIdentifierChars (cs : List Char) : Bool :=
  match cs.dropWhile (· = '_') with
  | [] => !cs.isEmpty
  | c :: rest => c.isLower && rest.all fun c => c.isAlphanum || c = '_'

/-- Is the key a name whose case may change? -/
def isIdentifier (key : String) : Bool :=
  isIdentifierChars key.toList

end LiveSync.Payload
