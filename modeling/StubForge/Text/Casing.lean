import StubForge.Text.Character
import StubForge.Text.Split

/-! Camel, title and snake casing of a name. -/
namespace StubForge.Text

/-- A word without small letters; signs and digits do not count. -/
def allCaps (w : List Char) : Bool := w.all fun c => isUppercase c || !isAlphabetic c

/-- A cased letter comes next once the ignorable signs are passed over. -/
def meetsCased (t : List Char) : Bool :=
  match t.dropWhile isCaseIgnorable with
  | c :: _ => isCased c
  | [] => false

/-- The small form of `t` as it stands after the text whose reversal is `before`. A sigma that
ends a word takes its final form. -/
def smallAfter (before : List Char) : List Char → List Char
  | [] => []
  | c :: r =>
    (if c = 'Σ' then [if meetsCased before && !meetsCased r then 'ς' else 'σ'] else small c)
      ++ smallAfter (c :: before) r

def smallText (t : List Char) : List Char := smallAfter [] t

/-- The letters of a word after the first: those of a word in capitals become small. -/
def wordTail (w : List Char) : List Char := if allCaps w then smallText w.tail else w.tail

def titleWord : List Char → List Char
  | [] => []
  | c :: r => capital c ++ wordTail (c :: r)

def camelWord : List Char → List Char
  | [] => []
  | c :: r => small c ++ wordTail (c :: r)

/-- The words between underscores. -/
def underscoreWords (name : List Char) : List (List Char) := fields (· == '_') name

def leadingUnderscores (name : List Char) : List Char := name.takeWhile (· == '_')

/-- Words joined with a capital each; leading underscores survive. -/
def titleCase (name : List Char) : List Char :=
  leadingUnderscores name ++ (underscoreWords name).flatMap titleWord

/-- As `titleCase`, but the first word starts small. -/
def camelCase (name : List Char) : List Char :=
  leadingUnderscores name ++
    match underscoreWords name with
    | [] => []
    | w :: ws => camelWord w ++ ws.flatMap titleWord

/-- What a scan for word ends has seen since the last one. -/
inductive ScanMode
  | boundary
  | lower
  | upper
  deriving DecidableEq, Repr

def ScanMode.after (mode : ScanMode) (c : Char) : ScanMode :=
  if isLowercase c then .lower else if isUppercase c then .upper else mode

/-- The words of a run of letters and digits. A word ends between a small letter and a capital,
and before the last capital of several when a small letter follows; `held` is the reversal of the
word so far. -/
def humps (mode : ScanMode) (held : List Char) : List Char → List (List Char)
  | [] => []
  | [c] => [(c :: held).reverse]
  | c :: n :: r =>
    if mode.after c = .lower ∧ isUppercase n then
      (c :: held).reverse :: humps .boundary [] (n :: r)
    else if mode = .upper ∧ isUppercase c ∧ isLowercase n then
      held.reverse :: humps .boundary [c] (n :: r)
    else humps (mode.after c) (c :: held) (n :: r)

/-- The words of a name: runs of letters and digits, cut further at their humps. -/
def words (name : List Char) : List (List Char) :=
  (split (fun c => !isAlphanumeric c) name).flatMap (humps .boundary [])

def shoutWord (w : List Char) : List Char := w.flatMap capital

/-- A sigma that ends the word takes its final form. -/
def snakeWord : List Char → List Char
  | [] => []
  | [c] => if c = 'Σ' then ['ς'] else small c
  | c :: r => small c ++ snakeWord r

/-- Words in capitals joined by underscores. -/
def shoutCase (name : List Char) : List Char := ['_'].intercalate ((words name).map shoutWord)

/-- Words in small letters joined by underscores. -/
def snakeCase (name : List Char) : List Char := ['_'].intercalate ((words name).map snakeWord)

example : titleCase "FOO_bar".toList = "FooBar".toList ∧
    camelCase "_foo_bar".toList = "_fooBar".toList ∧
    shoutCase "fooBARBaz1x".toList = "FOO_BAR_BAZ1X".toList ∧
    titleCase "ΟΔΟΣ".toList = "Οδος".toList := by decide +kernel

end StubForge.Text
