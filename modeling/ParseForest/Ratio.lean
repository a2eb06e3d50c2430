namespace ParseForest.Ratio

def roundDiv (dividend divisor : Nat) : Nat :=
  let quotient := dividend / divisor
  let rest := 2 * (dividend % divisor)
  if rest < divisor then quotient
  else if divisor < rest then quotient + 1
  else quotient + quotient % 2

-- The number of binary digits to shift a quotient of at most one by, so that it has 53 digits before the point.
def shift (part whole : Nat) : Nat :=
  let least := 52 + Nat.log2 whole - Nat.log2 part
  if part * Nat.pow 2 least < whole * Nat.pow 2 52 then least + 1 else least

def millionths (part whole : Nat) : Nat :=
  if part = 0 then 0
  else
    let scale := Nat.pow 2 (shift part whole)
    roundDiv (roundDiv (part * scale) whole * 1000000) scale

def render (part whole : Nat) : String :=
  let value := millionths part whole
  let decimals := toString (value % 1000000)
  toString (value / 1000000) ++ "." ++
    String.ofList (List.replicate (6 - decimals.length) '0') ++ decimals

end ParseForest.Ratio
