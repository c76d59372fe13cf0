import SchemaForms.Text.CaseTable
/-! Upper and lower case of whole texts, their visible units, the words of an identifier with the
two spellings made from them, and the parts of a text between separators. -/
namespace SchemaForms.Text

def CaseRun.image? (run : CaseRun) (code : Nat) : Option Nat :=
  let (first, last, stride, image) := run
  if first ≤ code ∧ code ≤ last ∧ (code - first) % stride = 0 then some (image + (code - first))
  else none

def mapCase (runs : List CaseRun) (expansions : List (Nat × List Nat)) (c : Char) : List Char :=
  match expansions.lookup c.toNat with
  | some images => images.map Char.ofNat
  | none => [((runs.findSome? (CaseRun.image? · c.toNat)).map Char.ofNat).getD c]

def upperChar (c : Char) : List Char := mapCase upperRuns upperExpansions c

def lowerChar (c : Char) : List Char := mapCase lowerRuns lowerExpansions c

def upper (text : List Char) : List Char := text.flatMap upperChar

/-- The nearest character that matters for case is a letter with case. -/
def meetsCased (text : List Char) : Bool :=
  (text.dropWhile caseIgnorable.contains).head?.any cased.contains

/-- `before` is the text already passed, last character first. -/
def lowerFrom (before : List Char) : List Char → List Char
  | [] => []
  | c :: rest =>
    let image :=
      if c = 'Σ' then if meetsCased before && !meetsCased rest then ['ς'] else ['σ']
      else lowerChar c
    image ++ lowerFrom (c :: before) rest

def lower (text : List Char) : List Char := lowerFrom [] text

/-- The first character in upper case, the rest in lower case. -/
def capitalized : List Char → List Char
  | [] => []
  | c :: rest => upperChar c ++ lower rest

abbrev Cluster := List Char

def joiner : Char := '\u200d'

def isExtending (c : Char) : Bool :=
  extending.contains c || pictographModifiers.contains c

/-- A joiner links the symbol before it to the symbol after it. -/
def linksPictograph : List Char → Bool
  | [] => false
  | c :: before => c = joiner && (before.dropWhile isExtending).head?.any pictographs.contains

/-- Whether `c` belongs to the unit read so far, given last character first. -/
def attaches (before : List Char) (c : Char) : Bool :=
  isExtending c || c = joiner || spacing.contains c || before.head?.any prepended.contains ||
    (pictographs.contains c && linksPictograph before)

def clustersFrom (cluster : List Char) : List Char → List Cluster
  | [] => [cluster.reverse]
  | c :: rest =>
    if attaches cluster c then clustersFrom (c :: cluster) rest
    else cluster.reverse :: clustersFrom [c] rest

def clusters : List Char → List Cluster
  | [] => []
  | c :: rest => clustersFrom [c] rest

theorem flatten_clustersFrom (cluster text : List Char) :
    (clustersFrom cluster text).flatten = cluster.reverse ++ text := by
  induction text generalizing cluster with
  | nil => simp [clustersFrom]
  | cons c rest ih =>
    unfold clustersFrom
    split <;> simp [ih]

theorem flatten_clusters (text : List Char) : (clusters text).flatten = text := by
  cases text with
  | nil => rfl
  | cons c rest => simp [clusters, flatten_clustersFrom]

inductive ClusterKind where
  | delimiter
  | digit
  | upper
  | lower
  | other
deriving DecidableEq, Repr

def clusterKind (cluster : Cluster) : ClusterKind :=
  if cluster = ['_'] ∨ cluster = ['-'] ∨ cluster = [' '] then .delimiter
  else if cluster.all Char.isDigit then .digit
  else if Text.upper cluster = Text.lower cluster then .other
  else if cluster = Text.upper cluster then .upper
  else if cluster = Text.lower cluster then .lower
  else .other

/-- Whether a word ends between two neighbours. A run of capitals ends before the capital that
starts a lower case word. -/
def endsBetween (left right : ClusterKind) (next : Option ClusterKind) : Bool :=
  match left, right with
  | .lower, .upper | .lower, .digit | .upper, .digit | .digit, .lower | .digit, .upper => true
  | .upper, .upper => next = some .lower
  | _, _ => false

def endsBefore (left : ClusterKind) : List Cluster → Bool
  | [] => false
  | right :: rest => endsBetween left (clusterKind right) (rest.head?.map clusterKind)

/-- Delimiters are dropped, also where that leaves an empty word. -/
def wordsFrom (word : List Char) : List Cluster → List (List Char)
  | [] => [word]
  | cluster :: rest =>
    if clusterKind cluster = .delimiter then word :: wordsFrom [] rest
    else if endsBefore (clusterKind cluster) rest then (word ++ cluster) :: wordsFrom [] rest
    else wordsFrom (word ++ cluster) rest

def words (text : String) : List (List Char) := wordsFrom [] (clusters text.toList)

def camelWords : List (List Char) → List Char
  | [] => []
  | first :: rest => lower first ++ rest.flatMap capitalized

def camelCase (text : String) : String := String.ofList (camelWords (words text))

def kebabCase (text : String) : String :=
  String.ofList (['-'].intercalate ((words text).map lower))

end SchemaForms.Text

namespace SchemaForms

/-- The parts between separators; there is always at least one. -/
def segments (separator : Char) : List Char → List (List Char)
  | [] => [[]]
  | c :: rest =>
    if c = separator then [] :: segments separator rest
    else match segments separator rest with
      | [] => [[c]]
      | first :: others => (c :: first) :: others

end SchemaForms
