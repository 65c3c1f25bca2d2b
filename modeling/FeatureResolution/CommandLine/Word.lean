import FeatureResolution.CommandLine.Vocabulary
import FeatureResolution.Text.Digit

/-!
# Words of the command line

Options are written `--name value` or `--name=value`, and a name may be cut short as long as it
stays unambiguous. `Word.classify` tells options from plain words by their spelling alone; after a
word `--` all words are plain.
-/

namespace FeatureResolution.CommandLine

/-- A word of the command line by its role. -/
inductive Word where
  /-- A word that is no option. -/
  | plain (text : String)
  /-- The word after which all words are plain. -/
  | separator
  /-- An option, with the value written after `=`. -/
  | switch (switch : Switch) (value : Option String)
  /-- The request for help, with what is written behind it and not understood. -/
  | help (ignored : Option String)
  /-- An option that there is not. -/
  | unknown (text : String)
deriving DecidableEq, Repr

namespace Word

/-- The long name of the request for help. -/
def helpName : String := "--help"

/-- A word cut at its first `=`; nothing stands after it when there is none. -/
def cutValue (text : String) : String × Option String :=
  let chars := text.toList
  let name := String.ofList (chars.takeWhile (· != '='))
  match chars.dropWhile (· != '=') with
  | [] => (name, none)
  | _ :: value => (name, some (String.ofList value))

/-- Whether a word is a negative number, whole or decimal. -/
def isNegativeNumber (text : String) : Bool :=
  match text.toList with
  | '-' :: rest =>
    let body := if rest.getLast? = some '\n' then rest.dropLast else rest
    let fraction := body.dropWhile Text.isDigit
    match fraction with
    | [] => !body.isEmpty
    | '.' :: digits => !digits.isEmpty && digits.all Text.isDigit
    | _ => false
  | _ => false

/-- What is not understood behind `-h`: letters `h` ask for help again, and the rest that begins
with another character means nothing. -/
def ignoredBehind : List Char → Option String
  | [] => none
  | 'h' :: rest => ignoredBehind rest
  | rest => some (String.ofList rest)

/-- The request for help by its short name, with the value written after `=`. -/
def shortHelp : Option String → Word
  | none => .help none
  | some value => .help (if value.isEmpty then some "" else ignoredBehind value.toList)

/-- A word that starts with a dash and is no option: a plain word when it is a number or holds a
space, and an unknown option otherwise. -/
def otherDashed (text : String) : Word :=
  if isNegativeNumber text || text.toList.contains ' ' then .plain text else .unknown text

/-- The option of a given name, with a value. -/
def named? (name : String) (value : Option String) : Option Word :=
  if name = helpName then some (.help value)
  else if name = "-h" then some (shortHelp value)
  else (Switch.all.find? (·.name = name)).map (.switch · value)

/-- An option whose name is cut short, with a value. -/
def abbreviated (text name : String) (value : Option String) : Except Misuse Word :=
  let candidates :=
    (helpName :: Switch.all.map Switch.name).filter fun candidate =>
      name.toList.isPrefixOf candidate.toList
  match candidates with
  | [] => .ok (otherDashed text)
  | [only] => .ok ((named? only value).getD (.unknown text))
  | _ => .error (.ambiguous text candidates)

/-- Tells the role of a word before any separator. -/
def classify (text : String) : Except Misuse Word :=
  match text.toList with
  | '-' :: second :: rest =>
    let (name, value) := cutValue text
    match named? text none, named? name value with
    | some word, _ => .ok word
    | none, some word => .ok word
    | none, none =>
      if second = '-' then abbreviated text name value
      else if second = 'h' then .ok (.help (ignoredBehind rest))
      else .ok (otherDashed text)
  | _ => .ok (.plain text)

/-- Tells the roles of all words. -/
def classifyAll : List String → Except Misuse (List Word)
  | [] => .ok []
  | text :: rest =>
    if text = OptionValue.separator then .ok (.separator :: rest.map .plain)
    else do return (← classify text) :: (← classifyAll rest)

end Word

end FeatureResolution.CommandLine
