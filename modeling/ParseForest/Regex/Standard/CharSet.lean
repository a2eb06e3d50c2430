import ParseForest.Unicode.Property
import ParseForest.Regex.Standard.CaseVariants

namespace ParseForest.Regex.Standard

structure Flags where
  ignoreCase : Bool := false
  multiLine : Bool := false
  dotAll : Bool := false
  crlf : Bool := false
  unicode : Bool := true
  verbose : Bool := false
  deriving DecidableEq

inductive ClassEscape where
  | digit
  | space
  | word
  deriving DecidableEq

inductive NamedClass where
  | alnum
  | alpha
  | ascii
  | blank
  | cntrl
  | digit
  | graph
  | lower
  | print
  | punct
  | space
  | upper
  | word
  | xdigit
  deriving DecidableEq

inductive Property where
  | any
  | ascii
  | assigned
  | alphabetic
  | whiteSpace
  | han
  | greek
  | cyrillic
  | categories (members : List Unicode.Category)

inductive SetOperation where
  | intersection
  | difference
  | symmetricDifference
  deriving DecidableEq

inductive CharSet where
  | empty
  | char (c : Char)
  | range (low high : Char)
  | escape (name : ClassEscape) (negated : Bool)
  | named (name : NamedClass) (negated : Bool)
  | property (name : Property) (negated : Bool)
  | union (items : List CharSet)
  | bracket (negated : Bool) (inner : CharSet)
  | operation (name : SetOperation) (left right : CharSet)

def asciiVariants (c : Char) : List Char :=
  if c.isUpper then [c,c.toLower] else if c.isLower then [c,c.toUpper] else [c]

namespace Flags

def variants (flags : Flags) (c : Char) : List Char :=
  if flags.ignoreCase then
    if flags.unicode then Unicode.caseVariants c else asciiVariants c
  else [c]

end Flags

namespace ClassEscape

def holdsAscii (name : ClassEscape) (c : Char) : Bool :=
  match name with
  | digit => c.isDigit
  | space => c == '\t' || c == '\n' || c == '\x0b' || c == '\x0c' || c == '\r' || c == ' '
  | word => c.isAlphanum || c == '_'

def holds (flags : Flags) (name : ClassEscape) (c : Char) : Bool :=
  if flags.unicode then
    match name with
    | digit => Unicode.isDigit .sixteenth c
    | space => Unicode.isSpace c
    | word => Unicode.isWord .sixteenth c
  else name.holdsAscii c

end ClassEscape

namespace NamedClass

def ofName? : String → Option NamedClass
  | "alnum" => some alnum
  | "alpha" => some alpha
  | "ascii" => some ascii
  | "blank" => some blank
  | "cntrl" => some cntrl
  | "digit" => some digit
  | "graph" => some graph
  | "lower" => some lower
  | "print" => some print
  | "punct" => some punct
  | "space" => some space
  | "upper" => some upper
  | "word" => some word
  | "xdigit" => some xdigit
  | _ => none

def holds (name : NamedClass) (c : Char) : Bool :=
  let code := c.toNat
  match name with
  | alnum => c.isAlphanum
  | alpha => c.isAlpha
  | ascii => code < 0x80
  | blank => c == '\t' || c == ' '
  | cntrl => code < 0x20 || code == 0x7F
  | digit => c.isDigit
  | graph => 0x21 ≤ code && code ≤ 0x7E
  | lower => c.isLower
  | print => 0x20 ≤ code && code ≤ 0x7E
  | punct => 0x21 ≤ code && code ≤ 0x7E && !c.isAlphanum
  | space => c == '\t' || c == '\n' || c == '\x0b' || c == '\x0c' || c == '\r' || c == ' '
  | upper => c.isUpper
  | word => c.isAlphanum || c == '_'
  | xdigit => (Unicode.hexDigit? c).isSome

end NamedClass

namespace Property

def categories? (name : String) : Option (List Unicode.Category) :=
  match name with
  | "l" | "letter" =>
    some [.upperLetter,.lowerLetter,.titleLetter,.modifierLetter,.otherLetter]
  | "lc" | "casedletter" => some [.upperLetter,.lowerLetter,.titleLetter]
  | "lu" | "uppercaseletter" => some [.upperLetter]
  | "ll" | "lowercaseletter" => some [.lowerLetter]
  | "lt" | "titlecaseletter" => some [.titleLetter]
  | "lm" | "modifierletter" => some [.modifierLetter]
  | "lo" | "otherletter" => some [.otherLetter]
  | "m" | "mark" | "combiningmark" => some [.nonspacingMark,.spacingMark,.enclosingMark]
  | "mn" | "nonspacingmark" => some [.nonspacingMark]
  | "mc" | "spacingmark" => some [.spacingMark]
  | "me" | "enclosingmark" => some [.enclosingMark]
  | "n" | "number" => some [.decimalNumber,.letterNumber,.otherNumber]
  | "nd" | "decimalnumber" | "digit" => some [.decimalNumber]
  | "nl" | "letternumber" => some [.letterNumber]
  | "no" | "othernumber" => some [.otherNumber]
  | "p" | "punctuation" | "punct" =>
    some [.connectorPunctuation,.dashPunctuation,.openPunctuation,.closePunctuation,
      .initialPunctuation,.finalPunctuation,.otherPunctuation]
  | "pc" | "connectorpunctuation" => some [.connectorPunctuation]
  | "pd" | "dashpunctuation" => some [.dashPunctuation]
  | "ps" | "openpunctuation" => some [.openPunctuation]
  | "pe" | "closepunctuation" => some [.closePunctuation]
  | "pi" | "initialpunctuation" => some [.initialPunctuation]
  | "pf" | "finalpunctuation" => some [.finalPunctuation]
  | "po" | "otherpunctuation" => some [.otherPunctuation]
  | "s" | "symbol" => some [.mathSymbol,.currencySymbol,.modifierSymbol,.otherSymbol]
  | "sm" | "mathsymbol" => some [.mathSymbol]
  | "sc" | "currencysymbol" => some [.currencySymbol]
  | "sk" | "modifiersymbol" => some [.modifierSymbol]
  | "so" | "othersymbol" => some [.otherSymbol]
  | "z" | "separator" => some [.spaceSeparator,.lineSeparator,.paragraphSeparator]
  | "zs" | "spaceseparator" => some [.spaceSeparator]
  | "zl" | "lineseparator" => some [.lineSeparator]
  | "zp" | "paragraphseparator" => some [.paragraphSeparator]
  | "c" | "other" => some [.control,.format,.privateUse,.unassigned]
  | "cc" | "control" | "cntrl" => some [.control]
  | "cf" | "format" => some [.format]
  | "co" | "privateuse" => some [.privateUse]
  | "cn" | "unassigned" => some [.unassigned]
  | _ => none

def ofCategory? (name : String) : Option Property :=
  match name with
  | "any" => some any
  | "assigned" => some assigned
  | "ascii" => some ascii
  | name => (categories? name).map categories

def ofScript? : String → Option Property
  | "han" | "hani" => some han
  | "greek" | "grek" => some greek
  | "cyrillic" | "cyrl" => some cyrillic
  | _ => none

def normalize (name : List Char) : String :=
  let lowered := name.map Char.toLower
  let isPrefixed := lowered.take 2 == ['i','s']
  let kept := (if isPrefixed then lowered.drop 2 else lowered).filter fun c =>
    c != ' ' && c != '_' && c != '-' && c.toNat < 0x80
  if isPrefixed && kept == ['c'] then "isc" else String.ofList kept

def ofName? (name : List Char) : Option Property :=
  match normalize name with
  | "alphabetic" | "alpha" => some alphabetic
  | "whitespace" | "wspace" | "space" => some whiteSpace
  | normal => (ofCategory? normal).or (ofScript? normal)

def ofValue? (name value : List Char) : Option Property :=
  match normalize name with
  | "generalcategory" | "gc" => ofCategory? (normalize value)
  | "script" | "sc" => ofScript? (normalize value)
  | _ => none

def holds (property : Property) (c : Char) : Bool :=
  match property with
  | any => true
  | ascii => c.toNat < 0x80
  | assigned => Unicode.Category.of .sixteenth c != .unassigned
  | alphabetic => Unicode.isAlphabetic .sixteenth c
  | whiteSpace => Unicode.isSpace c
  | han => Unicode.han.contains c
  | greek => Unicode.greek.contains c
  | cyrillic => Unicode.cyrillic.contains c
  | categories members => members.contains (Unicode.Category.of .sixteenth c)

end Property

namespace SetOperation

def holds : SetOperation → Bool → Bool → Bool
  | intersection,left,right => left && right
  | difference,left,right => left && !right
  | symmetricDifference,left,right => left != right

end SetOperation

namespace CharSet

mutual
def holds (flags : Flags) : CharSet → Char → Bool
  | empty,_ => false
  | char member,c => c == member
  | range low high,c => low ≤ c && c ≤ high
  | escape name negated,c => name.holds flags c != negated
  | named name negated,c => (flags.variants c).any name.holds != negated
  | property name negated,c => (flags.variants c).any name.holds != negated
  | union items,c => anyHolds flags items c
  | bracket negated inner,c => (flags.variants c).any (holds flags inner) != negated
  | operation name left right,c =>
    name.holds ((flags.variants c).any (holds flags left))
      ((flags.variants c).any (holds flags right))

def anyHolds (flags : Flags) : List CharSet → Char → Bool
  | [],_ => false
  | item :: rest,c => holds flags item c || anyHolds flags rest c
end

mutual
-- Whether a set may be used under the flags. Without `unicode` a set has to stay within ASCII, so that nothing may be
-- negated, and there are no properties.
def allowed (flags : Flags) : CharSet → Bool
  | empty => true
  | char c => flags.unicode || c.toNat < 0x80
  | range low high => flags.unicode || (low.toNat < 0x80 && high.toNat < 0x80)
  | escape _ negated => flags.unicode || !negated
  | named _ negated => flags.unicode || !negated
  | property _ _ => flags.unicode
  | union items => allAllowed flags items
  | bracket negated inner => (flags.unicode || !negated) && allowed flags inner
  | operation _ left right => allowed flags left && allowed flags right

def allAllowed (flags : Flags) : List CharSet → Bool
  | [] => true
  | item :: rest => allowed flags item && allAllowed flags rest
end

mutual
def depth : CharSet → Nat
  | union items => depthOfAll items + 1
  | bracket _ inner => depth inner + 1
  | operation _ left right => max (depth left) (depth right) + 1
  | _ => 0

def depthOfAll : List CharSet → Nat
  | [] => 0
  | item :: rest => max (depth item) (depthOfAll rest)
end

mutual
def weight : CharSet → Nat
  | union items => weightOfAll items
  | bracket _ inner => weight inner
  | operation _ left right => weight left + weight right
  | _ => 1

def weightOfAll : List CharSet → Nat
  | [] => 1
  | item :: rest => weight item + weightOfAll rest
end

end CharSet

end ParseForest.Regex.Standard
