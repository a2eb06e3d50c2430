import ParseForest.Regex.Standard.Expr

namespace ParseForest.Regex.Standard

def skipBlanks (comment : Bool) : List Char → List Char
  | [] => []
  | c :: rest =>
    if comment then skipBlanks (c != '\n') rest
    else if Unicode.isSpace c then skipBlanks false rest
    else if c = '#' then skipBlanks true rest
    else c :: rest

def skip (flags : Flags) (text : List Char) : List Char :=
  if flags.verbose then skipBlanks false text else text

def peek (flags : Flags) (text : List Char) : Option Char :=
  if flags.verbose then
    let rest := text.dropWhile Unicode.isSpace
    let rest := if rest.head? = some '#' then (rest.drop 1).dropWhile Unicode.isSpace else rest
    if rest.isEmpty then text.head? else rest.head?
  else text.head?

inductive Atom where
  | char (c : Char)
  | dot
  | look (condition : Look)
  | set (members : CharSet)

def charOfNat? (value : Nat) : Option Char :=
  if value.isValidChar then some (Char.ofNat value) else none

def hexDigits (flags : Flags) : Nat → Nat → List Char → Option (Nat × List Char)
  | 0,value,text => some (value,text)
  | missing + 1,value,text =>
    match text with
    | [] => none
    | c :: rest =>
      match Unicode.hexDigit? c with
      | some digit => hexDigits flags missing (value * 16 + digit) (skip flags rest)
      | none => none

def braced (flags : Flags) : Nat → List Char → List Char → Option (List Char × List Char)
  | 0,_,_ => none
  | rounds + 1,done,text =>
    match skip flags text with
    | [] => none
    | c :: rest =>
      if c = '\x7d' then some (done.reverse,rest) else braced flags rounds (c :: done) rest

def hexChar (flags : Flags) (digits : Nat) (text : List Char) : Option (Atom × List Char) :=
  match skip flags text with
  | [] => none
  | c :: rest =>
    if c = '\x7b' then do
      let (name,rest) ← braced flags (rest.length + 1) [] rest
      if name.isEmpty || name.any (fun c => (Unicode.hexDigit? c).isNone) then none
      else do
        let char ← charOfNat? (Unicode.hexValue name)
        return (.char char,skip flags rest)
    else do
      let (value,rest) ← hexDigits flags digits 0 (c :: rest)
      let char ← charOfNat? value
      if digits = 2 && !flags.unicode && 0x80 ≤ value then none
      else return (.char char,rest)

def splitAtChar (c : Char) (text : List Char) : Option (List Char × List Char) :=
  match text.dropWhile (· != c) with
  | [] => none
  | _ :: rest => some (text.takeWhile (· != c),rest)

def splitAtUnequal : List Char → Option (List Char × List Char)
  | '!' :: '=' :: rest => some ([],rest)
  | c :: rest => (splitAtUnequal rest).map fun (before,after) => (c :: before,after)
  | [] => none

def namedProperty? (name : List Char) (negated : Bool) : Option CharSet :=
  match splitAtUnequal name with
  | some (name,value) => (Property.ofValue? name value).map (.property · !negated)
  | none =>
    match (splitAtChar ':' name).or (splitAtChar '=' name) with
    | some (name,value) => (Property.ofValue? name value).map (.property · negated)
    | none => (Property.ofName? name).map (.property · negated)

def propertyEscape (flags : Flags) (negated : Bool) (text : List Char) :
    Option (Atom × List Char) :=
  match skip flags text with
  | [] => none
  | c :: rest =>
    if c = '\x7b' then do
      let (name,rest) ← braced flags (rest.length + 1) [] rest
      let members ← namedProperty? name negated
      return (.set members,rest)
    else do
      let property ← Property.ofName? [c]
      return (.set (.property property negated),skip flags rest)

def isMeta (c : Char) : Bool :=
  ['\\','.','+','*','?','(',')','|','[',']','\x7b','\x7d','^','$','#','&','-',
    '~'].contains c

-- The characters that a backslash leaves as they are: the special ones and every other ASCII character that is no
-- letter, digit or angle bracket.
def isEscapable (c : Char) : Bool :=
  isMeta c || (c.toNat < 0x80 && !c.isAlphanum && c != '<' && c != '>')

def boundaryName (flags : Flags) : Nat → List Char → List Char → List Char × List Char
  | 0,done,text => (done.reverse,text)
  | rounds + 1,done,text =>
    match text with
    | c :: rest =>
      if c.isAlpha || c == '-' then boundaryName flags rounds (c :: done) (skip flags rest)
      else (done.reverse,text)
    | [] => (done.reverse,[])

-- Reads what follows the escape for a word boundary: the name of a special boundary in braces, or nothing of it when
-- the braces hold a count.
def wordBoundary (flags : Flags) (text : List Char) : Option (Atom × List Char) :=
  let plain : Option (Atom × List Char) := some (.look (.wordBoundary flags.unicode),text)
  match text with
  | '\x7b' :: rest =>
    match skip flags rest with
    | [] => none
    | c :: inner =>
      if c.isAlpha || c == '-' then
        let (name,rest) := boundaryName flags (inner.length + 1) [] (c :: inner)
        match rest with
        | '\x7d' :: rest =>
          match String.ofList name with
          | "start" => some (.look (.wordStart flags.unicode),rest)
          | "end" => some (.look (.wordEnd flags.unicode),rest)
          | "start-half" => some (.look (.wordStartHalf flags.unicode),rest)
          | "end-half" => some (.look (.wordEndHalf flags.unicode),rest)
          | _ => none
        | _ => none
      else plain
  | _ => plain

def escape (flags : Flags) : List Char → Option (Atom × List Char)
  | [] => none
  | c :: rest =>
    let members (name : ClassEscape) (negated : Bool) : Option (Atom × List Char) :=
      some (.set (.escape name negated),rest)
    if c = 'x' then hexChar flags 2 rest
    else if c = 'u' then hexChar flags 4 rest
    else if c = 'U' then hexChar flags 8 rest
    else if c = 'p' then propertyEscape flags false rest
    else if c = 'P' then propertyEscape flags true rest
    else if c = 'd' then members .digit false
    else if c = 'D' then members .digit true
    else if c = 's' then members .space false
    else if c = 'S' then members .space true
    else if c = 'w' then members .word false
    else if c = 'W' then members .word true
    else if isEscapable c then some (.char c,rest)
    else if c = 'a' then some (.char '\x07',rest)
    else if c = 'f' then some (.char '\x0c',rest)
    else if c = 't' then some (.char '\t',rest)
    else if c = 'n' then some (.char '\n',rest)
    else if c = 'r' then some (.char '\r',rest)
    else if c = 'v' then some (.char '\x0b',rest)
    else if c = 'A' then some (.look .startOfText,rest)
    else if c = 'z' then some (.look .endOfText,rest)
    else if c = 'b' then wordBoundary flags rest
    else if c = 'B' then some (.look (.notWordBoundary flags.unicode),rest)
    else if c = '<' then some (.look (.wordStart flags.unicode),rest)
    else if c = '>' then some (.look (.wordEnd flags.unicode),rest)
    else none

inductive SetFrame where
  | opened (outer : List CharSet) (negated : Bool)
  | left (name : SetOperation) (side : CharSet)

def setOfItems : List CharSet → CharSet
  | [] => .empty
  | [item] => item
  | items => .union items.reverse

def joinSides (stack : List SetFrame) (right : CharSet) : CharSet × List SetFrame :=
  match stack with
  | .left name side :: rest => (.operation name side right,rest)
  | stack => (right,stack)

def leadingHyphens (flags : Flags) : Nat → List CharSet → List Char → List CharSet × List Char
  | 0,items,text => (items,text)
  | rounds + 1,items,text =>
    match text with
    | '-' :: rest => leadingHyphens flags rounds (.char '-' :: items) (skip flags rest)
    | text => (items,text)

-- Reads the beginning of a bracket behind its sign: a circumflex that negates it, hyphens, and a closing bracket that
-- stands for itself when it comes first.
def openSet (flags : Flags) (text : List Char) : Option (Bool × List CharSet × List Char) :=
  let text := skip flags text
  let negated := text.head? = some '^'
  let text := if negated then skip flags (text.drop 1) else text
  let (items,text) := leadingHyphens flags text.length [] text
  match items,text with
  | _,[] => none
  | [],']' :: rest =>
    let rest := skip flags rest
    if rest.isEmpty then none else some (negated,[.char ']'],rest)
  | items,text => some (negated,items,text)

def namedClass (text : List Char) : Option (CharSet × List Char) :=
  match text with
  | ':' :: rest => do
    let negated := rest.head? = some '^'
    let rest := if negated then rest.drop 1 else rest
    let (name,rest) ← splitAtChar ':' rest
    let named ← NamedClass.ofName? (String.ofList name)
    match rest with
    | ']' :: rest => some (.named named negated,rest)
    | _ => none
  | _ => none

def setAtom (flags : Flags) : List Char → Option (Atom × List Char)
  | [] => none
  | '\\' :: rest => escape flags rest
  | c :: rest => some (.char c,rest)

def setItem (flags : Flags) (text : List Char) : Option (CharSet × List Char) := do
  let (first,rest) ← setAtom flags text
  let rest := skip flags rest
  let single : Option (CharSet × List Char) :=
    match first with
    | .char c => some (.char c,rest)
    | .set members => some (members,rest)
    | _ => none
  match rest with
  | [] => none
  | '-' :: behind =>
    let next := peek flags behind
    if next = some ']' || next = some '-' then single
    else do
      let (second,rest) ← setAtom flags (skip flags behind)
      match first,second with
      | .char low,.char high => if low ≤ high then some (.range low high,rest) else none
      | _,_ => none
  | _ => single

-- Reads a bracket to its end. The first argument bounds the number of rounds; `items` are those of the innermost open
-- bracket.
def setLoop (flags : Flags) : Nat → List SetFrame → List CharSet → List Char →
    Option (CharSet × List Char)
  | 0,_,_,_ => none
  | rounds + 1,stack,items,text =>
    let operate (name : SetOperation) (rest : List Char) : Option (CharSet × List Char) :=
      let (side,stack) := joinSides stack (setOfItems items)
      setLoop flags rounds (.left name side :: stack) [] rest
    match skip flags text with
    | [] => none
    | '[' :: rest =>
      match namedClass rest with
      | some (item,rest) => setLoop flags rounds stack (item :: items) rest
      | none =>
        match openSet flags rest with
        | some (negated,inner,rest) =>
          setLoop flags rounds (.opened items negated :: stack) inner rest
        | none => none
    | ']' :: rest =>
      let (inner,stack) := joinSides stack (setOfItems items)
      match stack with
      | .opened outer negated :: below =>
        let done := CharSet.bracket negated inner
        if below.isEmpty then some (done,rest)
        else setLoop flags rounds below (done :: outer) rest
      | _ => none
    | '&' :: '&' :: rest => operate .intersection rest
    | '-' :: '-' :: rest => operate .difference rest
    | '~' :: '~' :: rest => operate .symmetricDifference rest
    | text =>
      match setItem flags text with
      | some (item,rest) => setLoop flags rounds stack (item :: items) rest
      | none => none

def bracket (flags : Flags) (text : List Char) : Option (CharSet × List Char) := do
  let (negated,items,rest) ← openSet flags text
  setLoop flags (rest.length + 1) [.opened [] negated] items rest

def decimal (flags : Flags) : Nat → List Char → List Char → Option (Nat × List Char)
  | 0,_,_ => none
  | rounds + 1,digits,text =>
    match text with
    | c :: rest =>
      if c.isDigit then decimal flags rounds (c :: digits) (skip flags rest)
      else finish digits text
    | [] => finish digits []
where
  finish (digits text : List Char) : Option (Nat × List Char) :=
    let value := digits.reverse.foldl (fun value c => value * 10 + (c.toNat - '0'.toNat)) 0
    if digits.isEmpty || Nat.pow 2 32 ≤ value then none
    else some (value,skip flags (text.dropWhile Unicode.isSpace))

def count (flags : Flags) (text : List Char) : Option (Nat × List Char) :=
  decimal flags (text.length + 1) [] (text.dropWhile Unicode.isSpace)

def counts (flags : Flags) (text : List Char) : Option (Nat × Option Nat × List Char) := do
  let (least,rest) ← count flags (skip flags text)
  let (most,rest) ← match rest with
    | ',' :: rest =>
      match skip flags rest with
      | '\x7d' :: rest => some (none,'\x7d' :: rest)
      | rest => (count flags rest).map fun (most,rest) => (some most,rest)
    | rest => some (some least,rest)
  match rest with
  | '\x7d' :: rest =>
    let rest := skip flags rest
    let rest := if rest.head? = some '?' then rest.drop 1 else rest
    match most with
    | some bound => if least ≤ bound then some (least,most,rest) else none
    | none => some (least,none,rest)
  | _ => none

-- Reads the letters of flags up to a colon or a closing parenthesis, which is returned. Each letter and the minus sign
-- may occur once, and a letter has to follow the minus sign. The first argument bounds the number of signs.
def flagLetters : Nat → List Char → List Char → Option (List Char × Char × List Char)
  | 0,_,_ => none
  | rounds + 1,done,text =>
    match text with
    | [] => none
    | c :: rest =>
      if c = ':' ∨ c = ')' then
        if done.head? = some '-' then none else some (done.reverse,c,rest)
      else if ['i','m','s','U','u','R','x','-'].contains c && !done.contains c then
        flagLetters rounds (c :: done) rest
      else none

def applyLetters (flags : Flags) (enable : Bool) : List Char → Flags
  | [] => flags
  | c :: rest =>
    match c with
    | '-' => applyLetters flags false rest
    | 'i' => applyLetters { flags with ignoreCase := enable } enable rest
    | 'm' => applyLetters { flags with multiLine := enable } enable rest
    | 's' => applyLetters { flags with dotAll := enable } enable rest
    | 'R' => applyLetters { flags with crlf := enable } enable rest
    | 'u' => applyLetters { flags with unicode := enable } enable rest
    | 'x' => applyLetters { flags with verbose := enable } enable rest
    | _ => applyLetters flags enable rest

-- Whether a name may stand for a group: it begins with a letter or an underscore and goes on with these, digits, points
-- and square brackets.
def isGroupName : List Char → Bool
  | [] => false
  | first :: rest =>
    (first == '_' || Unicode.isAlphabetic .seventeenth first) && rest.all fun c =>
      c == '_' || c == '.' || c == '[' || c == ']' ||
        Unicode.isAlphabetic .seventeenth c || Unicode.isNumeric .seventeenth c

inductive Opening where
  | directive (flags : Flags)
  | group (flags : Flags) (captures : Bool) (name : Option (List Char))

def opening (flags : Flags) (text : List Char) : Option (Opening × List Char) :=
  let named (rest : List Char) : Option (Opening × List Char) := do
    let (name,rest) ← splitAtChar '>' rest
    if isGroupName name then some (.group flags true (some name),rest) else none
  match skip flags text with
  | '?' :: '=' :: _ => none
  | '?' :: '!' :: _ => none
  | '?' :: '<' :: '=' :: _ => none
  | '?' :: '<' :: '!' :: _ => none
  | '?' :: 'P' :: '<' :: rest => named rest
  | '?' :: '<' :: rest => named rest
  | '?' :: rest => do
    let (letters,last,rest) ← flagLetters (rest.length + 1) [] rest
    let inner := applyLetters flags true letters
    if last = ':' then some (.group inner false none,rest)
    else if letters.isEmpty then none
    else some (.directive inner,rest)
  | rest => some (.group flags true none,rest)

def sequenceOf : List Expr → Expr
  | [] => .empty
  | [part] => part
  | parts => .sequence parts.reverse

structure Level where
  alternatives : List Expr := []
  parts : List Expr := []

namespace Level

def push (level : Level) (part : Expr) : Level :=
  { level with parts := part :: level.parts }

def next (level : Level) : Level :=
  ⟨sequenceOf level.parts :: level.alternatives,[]⟩

def close (level : Level) : Expr :=
  match level.alternatives with
  | [] => sequenceOf level.parts
  | alternatives => .choice (sequenceOf level.parts :: alternatives).reverse

def repeatLast (level : Level) (least : Nat) (most : Option Nat) : Option Level :=
  match level.parts with
  | [] => none
  | .directive :: _ => none
  | part :: rest => some { level with parts := .repeated least most part :: rest }

end Level

-- A group that is read when the one inside it is: what has been read of it, the flags that hold behind the inner group,
-- and whether the inner group captures.
structure Outer where
  level : Level
  flags : Flags
  captures : Bool

def atomExpr (flags : Flags) : Atom → Option Expr
  | .char c => some (.literal flags c)
  | .dot => if flags.unicode then some (.dot flags) else none
  | .look condition => some (.look condition)
  | .set members => if members.allowed flags then some (.set flags members) else none

def dropLazy (text : List Char) : List Char :=
  if text.head? = some '?' then text.drop 1 else text

-- Reads a pattern to its end. The first argument bounds the number of rounds. The stack holds the groups around the one
-- that is read, the innermost first.
def patternLoop : Nat → Flags → List (List Char) → List Outer → Level → List Char →
    Option Expr
  | 0,_,_,_,_,_ => none
  | rounds + 1,flags,names,stack,level,text =>
    let repeated (least : Nat) (most : Option Nat) (rest : List Char) : Option Expr := do
      let level ← level.repeatLast least most
      patternLoop rounds flags names stack level rest
    let atom (item : Atom) (rest : List Char) : Option Expr := do
      let part ← atomExpr flags item
      patternLoop rounds flags names stack (level.push part) rest
    match skip flags text with
    | [] => if stack.isEmpty then some level.close else none
    | '(' :: rest => do
      let (opened,rest) ← opening flags rest
      match opened with
      | .directive inner => patternLoop rounds inner names stack (level.push .directive) rest
      | .group inner captures name =>
        let stack := ⟨level,flags,captures⟩ :: stack
        match name with
        | none => patternLoop rounds inner names stack {} rest
        | some name =>
          if names.contains name then none
          else patternLoop rounds inner (name :: names) stack {} rest
    | ')' :: rest =>
      match stack with
      | outer :: below =>
        let part := Expr.group outer.captures level.close
        patternLoop rounds outer.flags names below (outer.level.push part) rest
      | [] => none
    | '|' :: rest => patternLoop rounds flags names stack level.next rest
    | '[' :: rest => do
      let (members,rest) ← bracket flags rest
      atom (.set members) rest
    | '?' :: rest => repeated 0 (some 1) (dropLazy rest)
    | '*' :: rest => repeated 0 none (dropLazy rest)
    | '+' :: rest => repeated 1 none (dropLazy rest)
    | '\x7b' :: rest => do
      let (least,most,rest) ← counts flags rest
      repeated least most rest
    | '\\' :: rest => do
      let (item,rest) ← escape flags rest
      atom item rest
    | '.' :: rest => atom .dot rest
    | '^' :: rest =>
      atom (.look (if flags.multiLine then .startOfLine flags.crlf else .startOfText)) rest
    | '$' :: rest =>
      atom (.look (if flags.multiLine then .endOfLine flags.crlf else .endOfText)) rest
    | c :: rest => atom (.char c) rest

def depthLimit : Nat := 250

def Expr.parse? (pattern : List Char) : Option Expr := do
  let expr ← patternLoop (pattern.length + 1) {} [] [] {} pattern
  if expr.depth ≤ depthLimit then some expr else none

end ParseForest.Regex.Standard
