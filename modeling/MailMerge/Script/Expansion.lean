import MailMerge.Script.Formula

/-!
# Values of words

The pieces of a word become characters that remember where they came from: only what stands for a
value, and is not quoted, is cut into several values, and only characters that are not quoted make
a pattern of files.
-/

namespace MailMerge.Script

/-- Where a character comes from: the script as it is written, a quotation, or a value. -/
inductive Mark where
  | plain
  | quoted
  | result
  deriving DecidableEq, Repr

inductive Item where
  | char (c : Char) (mark : Mark)
  /-- Keeps a value that is empty. -/
  | anchor
  /-- Between two arguments of the script; both are values even if empty when they are quoted. -/
  | border (quoted : Bool)
  deriving DecidableEq, Repr

namespace Item

def ofText (cs : Octets) (mark : Mark) : List Item :=
  cs.map fun c => .char c mark

/-- The characters of the items. -/
def text (items : List Item) : Octets :=
  items.filterMap fun
    | .char c _ => some c
    | _ => none

/-- The characters of the items; those that are not quoted are active. -/
def marked (items : List Item) : Marked :=
  items.filterMap fun
    | .char c mark => some (c, mark ≠ .quoted)
    | _ => none

end Item

def defaultSeparators : Octets := [' ', '\t', '\n']

/-- The characters at which values are cut. -/
def State.separators (σ : State) : Octets :=
  (σ.value? (octets "IFS")).getD defaultSeparators

/-- What stands between arguments that become one value. -/
def State.joint (σ : State) : Octets :=
  match σ.value? (octets "IFS") with
  | some cs => cs.take 1
  | none => [' ']

/-- The letters of the options that are on, in their order. -/
def State.optionLetters (σ : State) : Octets :=
  "ubaCEVvxsnmiIfe".toList.filter σ.hasOption

/-- The value of a sign, a numbered argument or a variable. -/
def State.scalar? (σ : State) (name : Octets) : Option Octets :=
  match name with
  | ['#'] => some (decimal σ.arguments.length)
  | ['?'] => some (decimal σ.status)
  | ['$'] => some (decimal σ.shell)
  | ['-'] => some σ.optionLetters
  | ['!'] => σ.background.map decimal
  | _ =>
    if name ≠ [] && name.all Char.isDigit then
      match Formula.valueOf 10 name with
      | 0 => some σ.name
      | n + 1 => σ.arguments[n]?
    else σ.value? name

/-- The values being cut out of items: complete ones, last first, and the one in progress. -/
structure Cutting where
  complete : List Marked
  current : Marked
  isThere : Bool
  /-- A blank has just ended a value; one other separator behind it belongs to the same end. -/
  behindBlank : Bool
  /-- The value in progress counts even if it is empty. -/
  behindBorder : Bool

namespace Cutting

def add (k : Cutting) (c : Char) (active : Bool) : Cutting :=
  { k with current := (c, active) :: k.current, isThere := true, behindBlank := false }

def close (k : Cutting) : Cutting :=
  { k with
    complete := k.current.reverse :: k.complete, current := [], isThere := false
    behindBlank := false, behindBorder := false }

def addItem (separators : Octets) (k : Cutting) : Item → Cutting
  | .char c mark =>
    if mark ≠ .result || !separators.contains c then k.add c (mark ≠ .quoted)
    else if defaultSeparators.contains c then
      if k.isThere then { k.close with behindBlank := true } else k
    else if k.behindBlank then { k with behindBlank := false }
    else k.close
  | .anchor => { k with isThere := true, behindBlank := false }
  | .border quoted =>
    if quoted then { k.close with behindBorder := true }
    else if k.isThere then k.close
    else k

def finish (k : Cutting) : List Marked :=
  if k.isThere || k.behindBorder then k.close.complete.reverse else k.complete.reverse

end Cutting

/-- The values that items are cut into. -/
def fields (separators : Octets) (items : List Item) : List Marked :=
  (items.foldl (Cutting.addItem separators) ⟨[], [], false, false, false⟩).finish

/-- Texts in the order of their bytes. -/
def sorted (texts : List Octets) : List Octets :=
  texts.mergeSort atMost

/-- The names in the folder of a path. -/
def namesIn (σ : State) (path : Octets) : List Octets :=
  match σ.files.list σ.working (pathOf (if path = [] then ['.'] else path)) with
  | .ok names => names.map octets
  | .error _ => []

def isFolder (σ : State) (path : Octets) : Bool :=
  σ.files.kind? σ.working (pathOf path) = some .folder

def isPresent (σ : State) (path : Octets) : Bool :=
  (σ.files.kind? σ.working (pathOf path)).isSome

/-- A pattern stands for a name; a point in front must stand in the pattern as well. -/
def matchesName (parts : List Pattern.Part) (name : Octets) : Bool :=
  (name.head? ≠ some '.' || parts.head? = some (.one '.')) && Pattern.accepts parts name

/-- The paths that go on from a path by these steps, each of which may be a pattern. -/
def pathsFrom (σ : State) (path : Octets) : List Marked → List Octets
  | [] => []
  | step :: rest =>
    let parts := Pattern.ofMarked step
    let names :=
      if Pattern.isPattern step then
        ((['.'] :: ['.', '.'] :: namesIn σ path).filter (matchesName parts))
      else [step.map Prod.fst]
    names.flatMap fun name =>
      let path := path ++ name
      if rest.isEmpty then if isPresent σ path then [path] else []
      else if name = [] || isFolder σ path then pathsFrom σ (path ++ ['/']) rest
      else []

/-- The steps of a path. -/
def stepsOf : Marked → List Marked
  | [] => [[]]
  | (c, active) :: rest =>
    if c = '/' then [] :: stepsOf rest else Text.extendFirst (c, active) (stepsOf rest)

/-- The files that a pattern stands for; it stands for itself if there are none. -/
def filesOf (σ : State) (m : Marked) : List Octets :=
  let itself := [m.map Prod.fst]
  if σ.hasOption 'f' || !Pattern.isPattern m then itself
  else
    match sorted (pathsFrom σ [] (stepsOf m)) with
    | [] => itself
    | paths => paths

/-- The folder of a user; the script's own user if no name is given. -/
def homeOf (σ : State) (user : Octets) : Option Octets :=
  if user = [] then σ.value? (octets "HOME")
  else if user = octets "root" then some (octets "/root")
  else none

/-- What runs commands for their output. -/
abbrev Capture := List Command → Running Octets

namespace Word

/-- All arguments, as they stand in a word. -/
def argumentItems (σ : State) (splits quoted : Bool) (together : Bool) : List Item :=
  let mark := if quoted then Mark.quoted else .result
  if splits && !(together && quoted) then
    let items := σ.arguments.map fun a => Item.ofText a mark
    Text.join [.border quoted] items
  else Item.ofText (Text.join σ.joint σ.arguments) mark

def lengthOf (cs : Octets) : Octets :=
  decimal cs.length

/-- The text that a use of a name works on. -/
def textOf? (σ : State) (name : Octets) : Option Octets :=
  if name = ['@'] || name = ['*'] then some (Text.join σ.joint σ.arguments) else σ.scalar? name

/-- Gives a variable its value in a word. -/
def assignIn (name value : Octets) : Running Unit := do
  if isName name then Running.assign name value
  else Running.fault (name ++ octets ": bad variable name")

mutual

/-- The characters that a word stands for. `splits` tells whether they may become several values,
and `within` whether the word belongs to a use of a value that is not quoted. -/
def items (capture : Capture) (splits within : Bool) : Word → Running (List Item)
  | [] => return []
  | p :: rest => do
    let first ← pieceItems capture splits within p
    return first ++ (← items capture splits within rest)

def pieceItems (capture : Capture) (splits within : Bool) : Piece → Running (List Item)
  | .text cs quoted =>
    return Item.ofText cs (if quoted then .quoted else if within then .result else .plain)
  | .anchor => return [.anchor]
  | .home user => do
    match homeOf (← get) user with
    | some home => return Item.ofText home .quoted
    | none => return Item.ofText ('~' :: user) .plain
  | .output body quoted => do
    return Item.ofText (← capture body) (if quoted then .quoted else .result)
  | .number formula quoted => do
    let text := Item.text (← items capture false false formula)
    let n ← Formula.value text
    return Item.ofText (decimalInt n) (if quoted then .quoted else .result)
  | .value name use word quoted => do
    let σ ← get
    let mark := if quoted then Mark.quoted else .result
    let text? := textOf? σ name
    let isMissing (orEmpty : Bool) := text?.isNone || (orEmpty && text? = some [])
    let all :=
      if name = ['@'] || name = ['*'] then argumentItems σ splits quoted (name = ['*'])
      else Item.ofText (text?.getD []) mark
    let demand : Running Octets :=
      match text? with
      | some text => return text
      | none =>
        if σ.hasOption 'u' then Running.fault (name ++ octets ": parameter not set") else return []
    match use with
    | .plain => do
      let _ ← demand
      return all
    | .length => return Item.ofText (lengthOf (← demand)) mark
    | .otherwise orEmpty =>
      if isMissing orEmpty then items capture splits (!quoted) word else return all
    | .whenGiven orEmpty =>
      if isMissing orEmpty then return [] else items capture splits (!quoted) word
    | .assigned orEmpty =>
      if isMissing orEmpty then do
        let value := Item.text (← items capture false false word)
        assignIn name value
        return Item.ofText value mark
      else return all
    | .demanded orEmpty =>
      if isMissing orEmpty then do
        let message := Item.text (← items capture false false word)
        let usual := octets (if orEmpty then "parameter not set or null" else "parameter not set")
        Running.fault (name ++ octets ": " ++ if word.isEmpty then usual else message)
      else return all
    | .cut front longest => do
      let text ← demand
      let pattern := Item.marked (← items capture false false word)
      return Item.ofText (Pattern.cut front longest (Pattern.ofMarked pattern) text) mark
    | .malformed => Running.fault (octets "Bad substitution")

end

/-- The values of a word. -/
def values (capture : Capture) (w : Word) : Running (List Octets) := do
  let found ← items capture true false w
  let σ ← get
  return (fields σ.separators found).flatMap (filesOf σ)

/-- The value of a word that stays whole. -/
def value (capture : Capture) (w : Word) : Running Octets := do
  return Item.text (← items capture false false w)

/-- The pattern of a word. -/
def pattern (capture : Capture) (w : Word) : Running (List Pattern.Part) := do
  return Pattern.ofMarked (Item.marked (← items capture false false w))

end Word

end MailMerge.Script
