import ParseForest.Regex.Standard.CharSet
import ParseForest.Regex.Standard.Intervals

namespace ParseForest.Regex.Standard
open Unicode

def asciiMembers (accepts : Char → Bool) : List Interval :=
  Intervals.ofPoints ((List.range 0x80).filter fun point => accepts (Char.ofNat point))

def digitMembers : List Interval :=
  Intervals.ofCategories (· == .decimalNumber)

def alphabeticMembers : List Interval :=
  Intervals.union (Intervals.ofCategories fun category =>
    category.isLetter || category == .letterNumber) otherAlphabetic.bounds.toList

def wordMembers : List Interval :=
  Intervals.union alphabeticMembers (Intervals.union [(0x200C,0x200D)]
    (Intervals.ofCategories fun category =>
      category.isMark || category == .decimalNumber || category == .connectorPunctuation))

namespace ClassEscape

def members (flags : Flags) (name : ClassEscape) : List Interval :=
  if flags.unicode then
    match name with
    | digit => digitMembers
    | space => Unicode.whiteSpace.bounds.toList
    | word => wordMembers
  else asciiMembers name.holdsAscii

end ClassEscape

namespace Property

def members : Property → List Interval
  | any => [(0,Intervals.last)]
  | ascii => [(0,0x7F)]
  | assigned => Intervals.ofCategories (· != .unassigned)
  | alphabetic => alphabeticMembers
  | whiteSpace => Unicode.whiteSpace.bounds.toList
  | han => Unicode.han.bounds.toList
  | greek => Unicode.greek.bounds.toList
  | cyrillic => Unicode.cyrillic.bounds.toList
  | categories accepted => Intervals.ofCategories accepted.contains

end Property

namespace SetOperation

def apply : SetOperation → List Interval → List Interval → List Interval
  | intersection => Intervals.intersection
  | difference => Intervals.difference
  | symmetricDifference => Intervals.symmetricDifference

end SetOperation

namespace Flags

def close (flags : Flags) (set : List Interval) : List Interval :=
  if flags.ignoreCase then
    let ranges : Ranges := ⟨set.toArray⟩
    let variants := if flags.unicode then variantSets
      else (List.range 26).map fun letter => [0x41 + letter,0x61 + letter]
    let added := variants.filter (·.any fun point => ranges.contains (Char.ofNat point))
    Intervals.union set (Intervals.ofPoints added.flatten)
  else set

end Flags

def negateIf (negated : Bool) (set : List Interval) : List Interval :=
  if negated then Intervals.complement set else set

namespace CharSet

mutual
def members (flags : Flags) : CharSet → List Interval
  | empty => []
  | char c => [(c.toNat,c.toNat)]
  | range low high => [(low.toNat,high.toNat)]
  | escape name negated => negateIf negated (name.members flags)
  | named name negated => negateIf negated (flags.close (asciiMembers name.holds))
  | property name negated => negateIf negated (flags.close name.members)
  | union items => Intervals.ofList (membersOfAll flags items)
  | bracket negated inner => negateIf negated (flags.close (members flags inner))
  | operation name left right =>
    name.apply (flags.close (members flags left)) (flags.close (members flags right))

def membersOfAll (flags : Flags) : List CharSet → List Interval
  | [] => []
  | item :: rest => members flags item ++ membersOfAll flags rest
end

end CharSet

end ParseForest.Regex.Standard
