namespace ParseForest.Limits

def sizes : Nat := Nat.pow 2 64

def identifiers : Nat := Nat.pow 2 32

def bytes : Nat := Nat.pow 2 63

def clampedSum (first second : Nat) : Nat := min (first + second) (sizes - 1)

end ParseForest.Limits
