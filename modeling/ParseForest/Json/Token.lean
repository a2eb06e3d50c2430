import ParseForest.Unicode.Ranges

namespace ParseForest.Json

-- A token. The text of a string is absent when it holds an unpaired surrogate escape.
inductive Token where
  | openArray
  | closeArray
  | openObject
  | closeObject
  | comma
  | colon
  | null
  | bool (value : Bool)
  | natural (value : Nat)
  | number (literal : String)
  | string (text : Option String)
  deriving DecidableEq

inductive NumberPart where
  | sign
  | zero
  | whole
  | point
  | fraction
  | mark
  | markSign
  | exponent
  deriving DecidableEq

namespace NumberPart

def isComplete : NumberPart → Bool
  | zero | whole | fraction | exponent => true
  | sign | point | mark | markSign => false

def next (part : NumberPart) (c : Char) : Option NumberPart :=
  match part with
  | sign => if c = '0' then some zero else if c.isDigit then some whole else none
  | zero => if c = '.' then some point else if c = 'e' ∨ c = 'E' then some mark else none
  | whole =>
    if c.isDigit then some whole
    else if c = '.' then some point
    else if c = 'e' ∨ c = 'E' then some mark
    else none
  | point => if c.isDigit then some fraction else none
  | fraction =>
    if c.isDigit then some fraction else if c = 'e' ∨ c = 'E' then some mark else none
  | mark =>
    if c = '+' ∨ c = '-' then some markSign else if c.isDigit then some exponent else none
  | markSign => if c.isDigit then some exponent else none
  | exponent => if c.isDigit then some exponent else none

end NumberPart

-- The part of a string that has been read: its characters, latest first, a high surrogate that still wants its low one,
-- and whether every surrogate before was paired.
structure Fragment where
  chars : List Char := []
  high : Option Nat := none
  paired : Bool := true

namespace Fragment

def push (fragment : Fragment) (c : Char) : Fragment :=
  ⟨c :: fragment.chars,none,fragment.paired && fragment.high.isNone⟩

def pushUnit (fragment : Fragment) (unit : Nat) : Fragment :=
  if 0xD800 ≤ unit ∧ unit < 0xDC00 then
    ⟨fragment.chars,some unit,fragment.paired && fragment.high.isNone⟩
  else if 0xDC00 ≤ unit ∧ unit < 0xE000 then
    match fragment.high with
    | some high =>
      let scalar := 0x10000 + (high - 0xD800) * 0x400 + (unit - 0xDC00)
      ⟨Char.ofNat scalar :: fragment.chars,none,fragment.paired⟩
    | none => { fragment with paired := false }
  else fragment.push (Char.ofNat unit)

def token (fragment : Fragment) : Token :=
  .string (if fragment.paired && fragment.high.isNone then
    some (String.ofList fragment.chars.reverse) else none)

end Fragment

inductive Mode where
  | blank
  | word (rest : List Char) (token : Token)
  | number (part : NumberPart) (literal : List Char)
  | string (fragment : Fragment)
  | escape (fragment : Fragment)
  | unit (fragment : Fragment) (missing : Nat) (value : Nat)

def numberToken (part : NumberPart) (literal : List Char) : Token :=
  let chars := literal.reverse
  if part = .zero ∨ part = .whole then
    if chars.head? = some '-' then .number (String.ofList chars)
    else .natural (chars.foldl (fun value c => value * 10 + (c.toNat - '0'.toNat)) 0)
  else .number (String.ofList chars)

structure Scanner where
  mode : Mode := .blank
  tokens : List Token := []

namespace Scanner

def begin (tokens : List Token) (c : Char) : Option Scanner :=
  if c = ' ' ∨ c = '\t' ∨ c = '\n' ∨ c = '\r' then some ⟨.blank,tokens⟩
  else if c = '[' then some ⟨.blank,.openArray :: tokens⟩
  else if c = ']' then some ⟨.blank,.closeArray :: tokens⟩
  else if c = '\x7b' then some ⟨.blank,.openObject :: tokens⟩
  else if c = '\x7d' then some ⟨.blank,.closeObject :: tokens⟩
  else if c = ',' then some ⟨.blank,.comma :: tokens⟩
  else if c = ':' then some ⟨.blank,.colon :: tokens⟩
  else if c = '"' then some ⟨.string ⟨[],none,true⟩,tokens⟩
  else if c = 'n' then some ⟨.word ['u','l','l'] .null,tokens⟩
  else if c = 't' then some ⟨.word ['r','u','e'] (.bool true),tokens⟩
  else if c = 'f' then some ⟨.word ['a','l','s','e'] (.bool false),tokens⟩
  else if c = '-' then some ⟨.number .sign ['-'],tokens⟩
  else if c = '0' then some ⟨.number .zero ['0'],tokens⟩
  else if c.isDigit then some ⟨.number .whole [c],tokens⟩
  else none

def escaped (fragment : Fragment) (tokens : List Token) (c : Char) : Option Scanner :=
  let char (value : Char) : Option Scanner := some ⟨.string (fragment.push value),tokens⟩
  if c = '"' then char '"'
  else if c = '\\' then char '\\'
  else if c = '/' then char '/'
  else if c = 'b' then char '\x08'
  else if c = 'f' then char '\x0c'
  else if c = 'n' then char '\n'
  else if c = 'r' then char '\r'
  else if c = 't' then char '\t'
  else if c = 'u' then some ⟨.unit fragment 3 0,tokens⟩
  else none

def step (scanner : Scanner) (c : Char) : Option Scanner :=
  match scanner.mode with
  | .blank => begin scanner.tokens c
  | .word [] token => begin (token :: scanner.tokens) c
  | .word [last] token => if c = last then some ⟨.blank,token :: scanner.tokens⟩ else none
  | .word (wanted :: rest) token =>
    if c = wanted then some ⟨.word rest token,scanner.tokens⟩ else none
  | .number part literal =>
    match part.next c with
    | some part => some ⟨.number part (c :: literal),scanner.tokens⟩
    | none =>
      if part.isComplete then begin (numberToken part literal :: scanner.tokens) c else none
  | .string fragment =>
    if c = '"' then some ⟨.blank,fragment.token :: scanner.tokens⟩
    else if c = '\\' then some ⟨.escape fragment,scanner.tokens⟩
    else if c.toNat < 0x20 then none
    else some ⟨.string (fragment.push c),scanner.tokens⟩
  | .escape fragment => escaped fragment scanner.tokens c
  | .unit fragment missing value =>
    match Unicode.hexDigit? c with
    | none => none
    | some digit =>
      match missing with
      | 0 => some ⟨.string (fragment.pushUnit (value * 16 + digit)),scanner.tokens⟩
      | missing + 1 => some ⟨.unit fragment missing (value * 16 + digit),scanner.tokens⟩

def run (scanner : Scanner) : List Char → Option Scanner
  | [] => some scanner
  | c :: rest =>
    match scanner.step c with
    | some next => next.run rest
    | none => none

def finish (scanner : Scanner) : Option (List Token) :=
  match scanner.mode with
  | .blank => some scanner.tokens.reverse
  | .number part literal =>
    if part.isComplete then some (numberToken part literal :: scanner.tokens).reverse else none
  | _ => none

end Scanner

def Token.scan (text : List Char) : Option (List Token) :=
  (Scanner.run ⟨.blank,[]⟩ text).bind Scanner.finish

end ParseForest.Json
