import ParseForest.Regex.Standard.Intervals

namespace ParseForest.Unicode.Utf8

abbrev ByteRange := Nat × Nat

def encode (c : Char) : List Nat :=
  (String.utf8EncodeChar c).map UInt8.toNat

def size (point : Nat) : Nat :=
  if point < 0x80 then 1 else if point < 0x800 then 2 else if point < 0x10000 then 3 else 4

-- Splits the numbers from `low` to `high`, which are written as a leading byte, counted from `lead`, and the given
-- number of continuing bytes. Whole blocks of the leading byte make one sequence; what is left over at either end is
-- split further.
def spread (lead : Nat) : Nat → Nat → Nat → List (List ByteRange)
  | 0,low,high => [[(lead + low,lead + high)]]
  | more + 1,low,high =>
    let block := 64 ^ (more + 1)
    let first := low / block
    let final := high / block
    let under (byte : Nat) (low high : Nat) : List (List ByteRange) :=
      (spread 0x80 more low high).map ((lead + byte,lead + byte) :: ·)
    if first = final then under first (low % block) (high % block)
    else
      let before := if low % block = 0 then [] else under first (low % block) (block - 1)
      let start := if low % block = 0 then first else first + 1
      let behind := if high % block = block - 1 then [] else under final 0 (high % block)
      let stop := if high % block = block - 1 then final + 1 else final
      let whole := if start < stop then
          [(lead + start,lead + (stop - 1)) :: List.replicate (more + 1) (0x80,0xBF)]
        else []
      before ++ whole ++ behind

-- The intervals of code points that are written alike: bounds, leading byte, continuing bytes. The surrogates are left
-- out.
def forms : List (Interval × Nat × Nat) :=
  [((0,0x7F),0,0),((0x80,0x7FF),0xC0,1),((0x800,0xD7FF),0xE0,2),
    ((0xE000,0xFFFF),0xE0,2),((0x10000,0x10FFFF),0xF0,3)]

def sequences (interval : Interval) : List (List ByteRange) :=
  forms.flatMap fun ((least,most),lead,more) =>
    let low := max interval.1 least
    let high := min interval.2 most
    if low ≤ high then spread lead more low high else []

end ParseForest.Unicode.Utf8
