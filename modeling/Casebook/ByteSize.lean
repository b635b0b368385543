/-! Numbers of bytes as people read them. A size is first rounded to the nearest number of 53
significant bits, then written with one decimal place in the largest unit up to gigabytes that
fits at least once; halves go to the even neighbour in both roundings.
-/

namespace Casebook.ByteSize

/-- The quotient rounded to the nearest whole number, a half to the even one. -/
def roundDiv (n d : Nat) : Nat :=
  let q := n / d
  let r := n % d
  if 2 * r < d then q
  else if d < 2 * r then q + 1
  else if q % 2 = 0 then q
  else q + 1

/-- The nearest number with at most 53 significant bits. -/
def significant (n : Nat) : Nat :=
  let surplus := n.log2 + 1 - 53
  roundDiv n (Nat.pow 2 surplus) * Nat.pow 2 surplus

/-- The number of times, up to three, that a size can be divided by 1024 and stay at least one. -/
def unitIndex (size : Nat) : Nat :=
  if size < 1024 then 0
  else if size < Nat.pow 1024 2 then 1
  else if size < Nat.pow 1024 3 then 2
  else 3

/-- The name of a unit. -/
def unitName : Nat → String
  | 0 => "B"
  | 1 => "KB"
  | 2 => "MB"
  | _ => "GB"

/-- The written form of a number of bytes. -/
def render (bytes : Nat) : String :=
  let size := significant bytes
  let unit := unitIndex size
  if unit = 0 then s!"{bytes} {unitName unit}"
  else
    let tenths := roundDiv (size * 10) (Nat.pow 1024 unit)
    s!"{tenths / 10}.{tenths % 10} {unitName unit}"

end Casebook.ByteSize
