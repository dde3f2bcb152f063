import MailMerge.Script.Source

/-!
# Reading scripts

The grammar of scripts. Words are read in a context that tells what ends them and whether they are
quoted; what stands in a word for the output of commands is read by the same grammar. A script is
read one line of commands after the other, since running a line may change how the next is read.
-/

namespace MailMerge.Script.Reader

/-- What ends the pieces that are read. -/
inductive Closer where
  | blank
  | quotation
  | brace
  | formula (depth : Nat)
  | document (a : Awaited)

/-- How far a list of commands goes: to the end of the line, to a word or sign that closes it, or
the same with no commands at all allowed. -/
inductive Reach where
  | line
  | closed
  | closedOrEmpty
  deriving DecidableEq

def endsWord (c : Char) : Bool :=
  " \t\n;&|<>()".toList.contains c

/-- Signs that are names of values. -/
def isSpecial (c : Char) : Bool :=
  c.isDigit || "!#$*-?@".toList.contains c

/-- The character loses its special meaning behind a backslash inside quotation marks. -/
def isProtected (closer : Closer) (c : Char) : Bool :=
  c = '\\' || c = '\x60' || c = '$' ||
    (match closer with
      | .document _ => false
      | .brace => c = '"' || c = '\x7d'
      | _ => c = '"')

/-- Quoted pieces within a word; all arguments together need no anchor, for there may be none. -/
def quotedPieces : Word → Word
  | [.value ['@'] .plain [] true] => [.value ['@'] .plain [] true]
  | pieces => .anchor :: pieces

/-- The commands to which no function may give a new meaning. -/
def specialNames : List String :=
  [".", ":", "break", "continue", "eval", "exec", "exit", "export", "readonly", "return", "set",
    "shift", "times", "trap", "unset"]

/-- The words at which a list of commands ends. -/
def closers : List String :=
  ["do", "done", "elif", "else", "esac", "fi", "then", "\x7d"]

def endsList : Token → Bool
  | .textEnd | .sign ")" | .sign ";;" => true
  | t => t.keyword?.any closers.contains

/-- Skips blanks and comments. -/
def skipBlanks : Nat → Reader Unit
  | 0 => return ()
  | fuel + 1 => do
    match ← peek with
    | some c =>
      if c = ' ' || c = '\t' then
        advance
        skipBlanks fuel
      else if c = '#' then
        modify fun s => { s with rest := s.rest.dropWhile (· ≠ '\n') }
    | none => return ()

/-- Leaves the aliases whose texts end here; the answer tells whether one of them ends with a blank,
such that the next word may be an alias. -/
def leaveAliases : Reader Bool :=
  modifyGet fun s =>
    let (ended, others) := s.replaced.partition fun r => s.rest.length ≤ r.behind
    (ended.any Replaced.goesOn, { s with replaced := others })

/-- The sign of a redirection. -/
def redirectSign : Reader (Option String) := do
  if ← skip '>' then
    if ← skip '>' then return some ">>"
    if ← skip '&' then return some ">&"
    if ← skip '|' then return some ">|"
    return some ">"
  if ← skip '<' then
    if ← skip '<' then return some (if ← skip '-' then "<<-" else "<<")
    if ← skip '&' then return some "<&"
    if ← skip '>' then return some "<>"
    return some "<"
  return none

/-- A redirection sign, with the digit of its channel before it. -/
def redirection? : Reader (Option Token) := do
  let channel :=
    match (← get).rest with
    | d :: c :: _ => if d.isDigit && (c = '<' || c = '>') then some (d.toNat - '0'.toNat) else none
    | _ => none
  if channel.isSome then advance
  return (← redirectSign).map (.redirect channel)

def sign? : Reader (Option Token) := do
  match ← peek with
  | some '&' => advance; return some (.sign (if ← skip '&' then "&&" else "&"))
  | some '|' => advance; return some (.sign (if ← skip '|' then "||" else "|"))
  | some ';' => advance; return some (.sign (if ← skip ';' then ";;" else ";"))
  | some '(' => advance; return some (.sign "(")
  | some ')' => advance; return some (.sign ")")
  | _ => return none

/-- The next line of the text is the one that an awaited text ends with; it is then skipped. -/
def atEnding (a : Awaited) : Reader Bool :=
  modifyGet fun s =>
    let rest := if a.withoutTabs then s.rest.dropWhile (· = '\t') else s.rest
    let line := rest.takeWhile (· ≠ '\n')
    if line = a.ending then
      (true, { s with rest := (rest.dropWhile (· ≠ '\n')).drop 1, line := s.line + 1 })
    else (false, { s with rest := rest })

/-- The lines of an awaited text as they stand. -/
def verbatim (a : Awaited) : Nat → Octets → Reader Octets
  | 0, taken => return taken.reverse
  | fuel + 1, taken => do
    if (← get).rest = [] then return taken.reverse
    if ← atEnding a then return taken.reverse
    let line := (← get).rest.takeWhile (· ≠ '\n')
    modify fun s =>
      { s with rest := (s.rest.dropWhile (· ≠ '\n')).drop 1, line := s.line + 1 }
    verbatim a fuel ('\n' :: line.reverse ++ taken)

/-- What a use of a value begins with behind its name. -/
def useSign : Reader Use := do
  match ← peek with
  | some '\x7d' => return .plain
  | some '%' =>
    advance
    return .cut false (← skip '%')
  | some '#' =>
    advance
    return .cut true (← skip '#')
  | _ =>
    let orEmpty ← skip ':'
    if ← skip '-' then return .otherwise orEmpty
    if ← skip '=' then return .assigned orEmpty
    if ← skip '?' then return .demanded orEmpty
    if ← skip '+' then return .whenGiven orEmpty
    if orEmpty && (← skip '\x7d') then return .plain
    return .malformed

/-- The name of a value between braces. -/
def bracedName? : Reader (Option Octets) := do
  match ← peek with
  | some c =>
    if isNameStart c then return some (← takeAll isNamePart)
    if c.isDigit then return some (← takeAll Char.isDigit)
    if isSpecial c then
      advance
      return some [c]
    return none
  | none => return none

/-- What stands between braces up to the word, if any, that belongs to it. -/
def bracedHead : Reader (Octets × Use) := do
  let before ← get
  if ← skip '#' then
    let c ← peek
    let named ← bracedName?
    match named with
    | some name =>
      let isWhole := c.any isNamePart || (← peek) = some '\x7d'
      if isWhole then return (name, if (← peek) = some '\x7d' then .length else .malformed)
    | none => pure ()
    set before
  match ← bracedName? with
  | some name => return (name, ← useSign)
  | none => return ([], .malformed)

mutual

/-- The pieces up to what ends them. -/
def collect (fuel : Nat) (quoted : Bool) (closer : Closer) (taken : Word) : Reader Word :=
  match fuel with
  | 0 => throw .openQuotation
  | fuel + 1 => do
    match ← peek with
    | none =>
      match closer with
      | .blank | .document _ => return finish taken
      | .quotation => throw .openQuotation
      | .brace => throw .openBrace
      | .formula _ => throw .openFormula
    | some '$' =>
      advance
      let piece ← dollar fuel quoted
      collect fuel quoted closer (piece :: taken)
    | some '\x60' =>
      advance
      let text ← backquotedText quoted ((← get).rest.length + 1) []
      let body ← apart fuel text
      collect fuel quoted closer (.output body quoted :: taken)
    | some '\\' =>
      advance
      match ← nextRaw with
      | none => collect fuel quoted closer (addChar '\\' true taken)
      | some c =>
        let taken := if quoted && !isProtected closer c then addChar '\\' true taken else taken
        collect fuel quoted closer (addChar c true taken)
    | some c =>
      if c = '\'' && !quoted then
        advance
        let text ← singleQuoted ((← get).rest.length + 1) []
        collect fuel quoted closer (addText text true (.anchor :: taken))
      else
        match closer with
        | .blank =>
          if c = '"' then
            advance
            let inner ← collect fuel true .quotation []
            collect fuel quoted closer (reopened (quotedPieces inner) taken)
          else if endsWord c then return finish taken
          else
            advance
            collect fuel quoted closer (addChar c quoted taken)
        | .brace =>
          advance
          if c = '"' then
            let inner ← collect fuel true .quotation []
            collect fuel quoted closer (reopened (quotedPieces inner) taken)
          else if c = '\x7d' then return finish taken
          else collect fuel quoted closer (addChar c quoted taken)
        | .quotation =>
          advance
          if c = '"' then return finish taken
          else collect fuel quoted closer (addChar c quoted taken)
        | .formula depth =>
          advance
          if c = '(' then collect fuel quoted (.formula (depth + 1)) (addChar c quoted taken)
          else if c = ')' then
            if depth = 0 then
              if ← skip ')' then return finish taken
              else collect fuel quoted closer (addChar c quoted taken)
            else collect fuel quoted (.formula (depth - 1)) (addChar c quoted taken)
          else collect fuel quoted closer (addChar c quoted taken)
        | .document a =>
          advance
          if c = '\n' && (← atEnding a) then return finish (addChar c quoted taken)
          else collect fuel quoted closer (addChar c quoted taken)
where
  /-- Puts finished pieces behind pieces that are held in reverse. -/
  reopened (pieces taken : Word) : Word :=
    pieces.foldl (fun taken p =>
      match p with
      | .text cs q => .text cs.reverse q :: taken
      | p => p :: taken) taken

/-- The piece behind a dollar sign. -/
def dollar (fuel : Nat) (quoted : Bool) : Reader Piece :=
  match fuel with
  | 0 => throw .openQuotation
  | fuel + 1 => do
    match ← peek with
    | some '(' =>
      advance
      if ← skip '(' then return .number (← collect fuel true (.formula 0) []) quoted
      else
        let awaited := (← get).awaited
        modify fun s => { s with awaited := [] }
        let body ← commands fuel .closedOrEmpty
        expectSign fuel ")"
        modify fun s => { s with awaited := s.awaited ++ awaited }
        return .output body quoted
    | some '\x7b' =>
      advance
      let (name, use) ← bracedHead
      let pattern := match use with
        | .cut .. => true
        | _ => false
      let word ← collect fuel (quoted && !pattern) .brace []
      return .value name use word.withHome quoted
    | some c =>
      if isNameStart c then return .value (← takeAll isNamePart) .plain [] quoted
      else if isSpecial c then
        advance
        return .value [c] .plain [] quoted
      else return .text ['$'] quoted
    | none => return .text ['$'] quoted

/-- The commands of a text that stands apart. -/
def apart (fuel : Nat) (text : Octets) : Reader (List Command) :=
  match fuel with
  | 0 => throw .openBackquote
  | fuel + 1 => do
    let before ← get
    set { before with rest := text, pushed := none, awaited := [] }
    let body ← commands fuel .closedOrEmpty
    match ← token fuel false with
    | .textEnd =>
      modify fun s =>
        { s with
          rest := before.rest, line := before.line, pushed := before.pushed
          awaited := before.awaited }
      return body
    | t => throw (.unexpected (t.description true) none)

/-- The next token; `aliased` tells whether an alias may stand here. -/
def token (fuel : Nat) (aliased : Bool) : Reader Token :=
  match fuel with
  | 0 => throw .openQuotation
  | fuel + 1 => do
    match (← get).pushed with
    | some t =>
      modify fun s => { s with pushed := none }
      return t
    | none =>
      skipBlanks ((← get).rest.length + 1)
      match ← peek with
      | none => return .textEnd
      | some '\n' =>
        advance
        let awaited := (← get).awaited
        modify fun s => { s with awaited := [] }
        documents fuel awaited
        return .lineEnd
      | some _ =>
        if let some t ← sign? then return t
        if let some t ← redirection? then return t
        let goesOn ← leaveAliases
        let w := (← collect fuel false .blank []).withHome
        let s ← get
        let name? := if aliased || goesOn then Word.plain? w else none
        match name?.bind fun cs => s.aliases.find? (·.1 = cs) with
        | some (name, value) =>
          if (Token.word w).keyword?.isSome then return .word w
          else if s.replaced.any (fun r => r.name = name) then return .word w
          else
            let blank := value.getLast?.any fun c => c = ' ' || c = '\t'
            set { s with
              rest := value ++ s.rest, replaced := ⟨name, s.rest.length, blank⟩ :: s.replaced }
            token fuel true
        | none => return .word w

/-- Reads the texts that redirections of a line call for. -/
def documents (fuel : Nat) (awaited : List Awaited) : Reader Unit :=
  match fuel, awaited with
  | 0, _ => throw .openQuotation
  | _, [] => return ()
  | fuel + 1, a :: rest => do
    let w ←
      if a.verbatim then do
        pure [.text (← verbatim a ((← get).rest.length + 1) []) true]
      else if (← get).rest = [] then pure []
      else if ← atEnding a then pure []
      else collect fuel true (.document a) []
    modify fun s => { s with documents := s.documents.setIfInBounds a.number w }
    documents fuel rest

def expectSign (fuel : Nat) (sign : String) : Reader Unit :=
  match fuel with
  | 0 => throw .openQuotation
  | fuel + 1 => do
    match ← token fuel false with
    | .sign s =>
      if s = sign then return ()
      else throw (.unexpected (Token.description true (.sign s)) (some s!"\"{sign}\""))
    | t => throw (.unexpected (t.description true) (some s!"\"{sign}\""))

/-- The next token that is no line end. -/
def solid (fuel : Nat) (aliased : Bool) : Reader Token :=
  match fuel with
  | 0 => throw .openQuotation
  | fuel + 1 => do
    match ← token fuel aliased with
    | .lineEnd => solid fuel aliased
    | t => return t

def expectKeyword (fuel : Nat) (keyword : String) : Reader Unit :=
  match fuel with
  | 0 => throw .openQuotation
  | fuel + 1 => do
    let t ← solid fuel false
    if t.keyword? = some keyword then return ()
    else throw (.unexpected (t.description true) (some s!"\"{keyword}\""))

/-- The commands of a list as far as it reaches. -/
def commands (fuel : Nat) (reach : Reach) : Reader (List Command) :=
  match fuel with
  | 0 => throw .openQuotation
  | fuel + 1 => do
    let t ← if reach = .line then token fuel true else solid fuel true
    match t with
    | .lineEnd => return []
    | .textEnd =>
      push t
      return []
    | _ =>
      push t
      if reach = .closedOrEmpty && endsList t then return []
      let c ← chain fuel
      let reach := if reach = .closed then .closedOrEmpty else reach
      match ← token fuel false with
      | .sign "&" => return .behind (← get).line c :: (← commands fuel reach)
      | .sign ";" => return c :: (← commands fuel reach)
      | .lineEnd =>
        if reach = .line then return [c]
        else return c :: (← commands fuel reach)
      | .textEnd =>
        push .textEnd
        return [c]
      | t =>
        if reach = .line then throw (.unexpected (t.description true) none)
        push t
        return [c]

/-- Commands that depend on how the one before ended. -/
def chain (fuel : Nat) : Reader Command :=
  match fuel with
  | 0 => throw .openQuotation
  | fuel + 1 => do
    let first ← pipeline fuel
    links fuel first

def links (fuel : Nat) (first : Command) : Reader Command :=
  match fuel with
  | 0 => throw .openQuotation
  | fuel + 1 => do
    match ← token fuel false with
    | .sign "&&" =>
      push (← solid fuel true)
      let second ← pipeline fuel
      links fuel (.whenOk first second)
    | .sign "||" =>
      push (← solid fuel true)
      let second ← pipeline fuel
      links fuel (.whenFailed first second)
    | t =>
      push t
      return first

def pipeline (fuel : Nat) : Reader Command :=
  match fuel with
  | 0 => throw .openQuotation
  | fuel + 1 => do
    let t ← token fuel true
    let negated := t.keyword? = some "!"
    if !negated then push t
    let first ← command fuel
    let rest ← pipeRest fuel
    let c := if rest.isEmpty then first else .pipe (first :: rest)
    return if negated then .negated c else c

def pipeRest (fuel : Nat) : Reader (List Command) :=
  match fuel with
  | 0 => throw .openQuotation
  | fuel + 1 => do
    match ← token fuel false with
    | .sign "|" =>
      push (← solid fuel true)
      let c ← command fuel
      return c :: (← pipeRest fuel)
    | t =>
      push t
      return []

def command (fuel : Nat) : Reader Command :=
  match fuel with
  | 0 => throw .openQuotation
  | fuel + 1 => do
    let line := (← get).line
    let t ← token fuel true
    match t.keyword? with
    | some "if" => closing fuel line (← choice fuel)
    | some "while" => closing fuel line (← loop fuel true)
    | some "until" => closing fuel line (← loop fuel false)
    | some "for" => closing fuel line (← each fuel line)
    | some "case" => closing fuel line (← select fuel line)
    | some "\x7b" =>
      let body ← commands fuel .closed
      expectKeyword fuel "\x7d"
      closing fuel line (.group body)
    | some "in" =>
      push t
      simple fuel (← get).line [] [] []
    | some _ => throw (.unexpected (t.description true) none)
    | none =>
      match t with
      | .sign "(" =>
        let body ← commands fuel .closed
        expectSign fuel ")"
        closing fuel line (.inside line body)
      | .word _ | .redirect .. =>
        push t
        simple fuel (← get).line [] [] []
      | t => throw (.unexpected (t.description true) none)

/-- A command with the redirections behind its end. -/
def closing (fuel : Nat) (line : Nat) (c : Command) : Reader Command :=
  match fuel with
  | 0 => throw .openQuotation
  | fuel + 1 => do
    match ← redirects fuel with
    | [] => return c
    | rs => return .redirected line c rs

def redirects (fuel : Nat) : Reader (List Redirect) :=
  match fuel with
  | 0 => throw .openQuotation
  | fuel + 1 => do
    match ← token fuel true with
    | .redirect channel sign =>
      let r ← redirect fuel channel sign
      return r :: (← redirects fuel)
    | t =>
      push t
      return []

/-- What a redirection leads to. -/
def redirect (fuel : Nat) (channel : Option Nat) (sign : String) : Reader Redirect :=
  match fuel with
  | 0 => throw .openQuotation
  | fuel + 1 => do
    match ← token fuel false with
    | .word w =>
      let plainly (leading : Leading) (usual : Nat) := Redirect.mk (channel.getD usual) leading w
      match sign with
      | ">" => return plainly .toFile 1
      | ">|" => return plainly .overFile 1
      | ">>" => return plainly .toEnd 1
      | ">&" => return plainly .toChannel 1
      | "<" => return plainly .fromFile 0
      | "<&" => return plainly .toChannel 0
      | "<>" => return plainly .both 0
      | _ =>
        let (ending, quoted) := w.unquoted
        modifyGet fun s =>
          let number := s.documents.size
          let a : Awaited := ⟨number, ending, quoted, sign = "<<-"⟩
          (.mk (channel.getD 0) (.fromScript number) [],
            { s with documents := s.documents.push [], awaited := s.awaited ++ [a] })
    | t => throw (.unexpected (t.description false) none)

/-- A call with the parts that were read, last first, or the definition of a function. -/
def simple (fuel : Nat) (line : Nat) (assigned : List (Octets × Word)) (words : List Word)
    (rs : List Redirect) : Reader Command :=
  match fuel with
  | 0 => throw .openQuotation
  | fuel + 1 => do
    let done := Command.call line assigned.reverse words.reverse rs.reverse
    match ← token fuel words.isEmpty with
    | .word w =>
      match if words.isEmpty then w.assignment? else none with
      | some (name, value) => simple fuel line ((name, value.withHomes) :: assigned) words rs
      | none => simple fuel line assigned (w :: words) rs
    | .redirect channel sign =>
      let r ← redirect fuel channel sign
      simple fuel line assigned words (r :: rs)
    | .sign "(" =>
      match words, assigned, rs with
      | [w], [], [] => define fuel w
      | _, _, _ =>
        push (.sign "(")
        return done
    | t =>
      push t
      return done

/-- The definition of a function, behind its name and an opening bracket. -/
def define (fuel : Nat) (name : Word) : Reader Command :=
  match fuel with
  | 0 => throw .openQuotation
  | fuel + 1 => do
    expectSign fuel ")"
    match Word.plain? name with
    | some cs =>
      if isName cs && !specialNames.contains (String.ofList cs) then
        let line := (← get).line
        push (← solid fuel true)
        return .define line cs (← command fuel)
      else throw .functionName
    | none => throw .functionName

def choice (fuel : Nat) : Reader Command :=
  match fuel with
  | 0 => throw .openQuotation
  | fuel + 1 => do
    let condition ← commands fuel .closed
    expectKeyword fuel "then"
    let yes ← commands fuel .closed
    let t ← solid fuel false
    match t.keyword? with
    | some "elif" => return .choice condition yes [← choice fuel]
    | some "else" =>
      let no ← commands fuel .closed
      expectKeyword fuel "fi"
      return .choice condition yes no
    | some "fi" => return .choice condition yes []
    | _ => throw (.unexpected (t.description true) (some "\"fi\""))

def loop (fuel : Nat) (whileOk : Bool) : Reader Command :=
  match fuel with
  | 0 => throw .openQuotation
  | fuel + 1 => do
    let condition ← commands fuel .closed
    return .loop whileOk condition (← body fuel)

def body (fuel : Nat) : Reader (List Command) :=
  match fuel with
  | 0 => throw .openQuotation
  | fuel + 1 => do
    expectKeyword fuel "do"
    let cs ← commands fuel .closed
    expectKeyword fuel "done"
    return cs

def each (fuel : Nat) (line : Nat) : Reader Command :=
  match fuel with
  | 0 => throw .openQuotation
  | fuel + 1 => do
    match ← token fuel false with
    | .word w =>
      match Word.plain? w with
      | some name =>
        if !isName name then throw .loopName
        let t ← solid fuel false
        if t.keyword? = some "in" then
          let words ← loopWords fuel
          return .each line name words (← body fuel)
        else
          if !(t matches .sign ";") then push t
          return .each line name [[.value ['@'] .plain [] true]] (← body fuel)
      | none => throw .loopName
    | _ => throw .loopName

def loopWords (fuel : Nat) : Reader (List Word) :=
  match fuel with
  | 0 => throw .openQuotation
  | fuel + 1 => do
    match ← token fuel false with
    | .word w => return w :: (← loopWords fuel)
    | .lineEnd | .sign ";" => return []
    | t => throw (.unexpected (t.description false) none)

def select (fuel : Nat) (line : Nat) : Reader Command :=
  match fuel with
  | 0 => throw .openQuotation
  | fuel + 1 => do
    match ← token fuel false with
    | .word w =>
      expectKeyword fuel "in"
      return .select line w (← cases fuel)
    | t => throw (.unexpected (t.description false) (some "word"))

def cases (fuel : Nat) : Reader (List (List Word × List Command)) :=
  match fuel with
  | 0 => throw .openQuotation
  | fuel + 1 => do
    let t ← solid fuel false
    if t.keyword? = some "esac" then return []
    if !(t matches .sign "(") then push t
    let patterns ← alternatives fuel
    let cs ← commands fuel .closedOrEmpty
    let t ← solid fuel false
    if t.keyword? = some "esac" then return [(patterns, cs)]
    match t with
    | .sign ";;" => return (patterns, cs) :: (← cases fuel)
    | t => throw (.unexpected (t.description true) (some "\";;\""))

def alternatives (fuel : Nat) : Reader (List Word) :=
  match fuel with
  | 0 => throw .openQuotation
  | fuel + 1 => do
    match ← token fuel false with
    | .word w =>
      match ← token fuel false with
      | .sign "|" => return w :: (← alternatives fuel)
      | .sign ")" => return [w]
      | t => throw (.unexpected (t.description false) (some "\")\""))
    | t => throw (.unexpected (t.description false) (some "\")\""))

end

/-- The commands of the next line; none at the end of the text. -/
def nextLine : Reader (Option (List Command)) := do
  let fuel := 16 * ((← get).rest.length + 64)
  match ← token fuel true with
  | .textEnd => return none
  | .lineEnd => return some []
  | t =>
    push t
    return some (← commands fuel .line)

end MailMerge.Script.Reader
