namespace CliMetadata.Shortest

/-- The field widths of a binary interchange format. -/
structure BinaryFormat where
  fraction : Nat
  exponent : Nat

def single : BinaryFormat := ⟨23, 8⟩

def double : BinaryFormat := ⟨52, 11⟩

/-- A positive number `mantissa * 2 ^ scale`, written as a quotient, with the two ends of the
interval of numbers that round to it over the same denominator. -/
structure Interval where
  value : Nat
  low : Nat
  high : Nat
  denominator : Nat
  closed : Bool

def interval (format : BinaryFormat) (biased fraction : Nat) : Interval :=
  let hidden := 1 <<< format.fraction
  let mantissa := if biased = 0 then fraction else hidden + fraction
  let power := (if biased = 0 then 1 else biased) + 2
  let bias := 1 <<< (format.exponent - 1) - 1 + format.fraction + 4
  let below := if fraction = 0 ∧ 1 < biased then 1 else 2
  let up := 1 <<< (power - bias)
  { value := 4 * mantissa * up
    low := (4 * mantissa - below) * up
    high := (4 * mantissa + 2) * up
    denominator := 1 <<< (bias - power)
    closed := mantissa % 2 = 0 }

def powerOfTen (n : Nat) : Nat := Nat.pow 10 n

def decimalLength (n : Nat) : Nat := (Nat.toDigits 10 n).length

/-- The exponent `e` with `10 ^ e ≤ value < 10 ^ (e + 1)`. -/
def Interval.decimalExponent (i : Interval) : Int :=
  if i.denominator ≤ i.value then (decimalLength (i.value / i.denominator) : Int) - 1
  else - (decimalLength ((i.denominator + i.value - 1) / i.value - 1) : Int)

/-- Whether `n * 10 ^ power` lies in the interval. -/
def Interval.holds (i : Interval) (n : Nat) (power : Int) : Bool :=
  let point := n * powerOfTen power.toNat * i.denominator
  let low := i.low * powerOfTen (-power).toNat
  let high := i.high * powerOfTen (-power).toNat
  if i.closed then low ≤ point && point ≤ high else low < point && point < high

/-- The decimal of `count` digits in the interval that is nearest to the value. -/
def Interval.atLength? (i : Interval) (count : Nat) : Option (Nat × Int) :=
  let power := i.decimalExponent - (count : Int) + 1
  let numerator := i.value * powerOfTen (-power).toNat
  let denominator := i.denominator * powerOfTen power.toNat
  let lower := numerator / denominator
  let nearUpper := denominator ≤ 2 * (numerator % denominator)
  let (first, second) := if nearUpper then (lower + 1, lower) else (lower, lower + 1)
  if i.holds first power then some (first, power)
  else if i.holds second power then some (second, power)
  else none

/-- Moves the zeros at the end of a numeral into its power of ten. -/
def stripZeros : Nat → Nat → Int → Nat × Int
  | 0, n, power => (n, power)
  | fuel + 1, n, power =>
    if n ≠ 0 ∧ n % 10 = 0 then stripZeros fuel (n / 10) (power + 1) else (n, power)

/-- The digits of a positive number and the power of ten of the last of them. -/
def Interval.digits (i : Interval) : Nat × Int :=
  let found := ((List.range 17).findSome? fun k ↦ i.atLength? (k + 1)).getD (0, 0)
  stripZeros 20 found.1 found.2

/-- Positional from a ten-thousandth up to ten to the sixteenth, with at least one digit behind the
point; otherwise one digit, the others behind the point, and the exponent. -/
def layout (digits : List Char) (power : Int) : List Char :=
  let exponent := power + (digits.length : Int) - 1
  if -4 ≤ exponent ∧ exponent < 16 then
    if 0 ≤ power then digits ++ List.replicate power.toNat '0' ++ ['.', '0']
    else
      let behind := (-power).toNat
      if behind < digits.length then
        digits.take (digits.length - behind) ++ '.' :: digits.drop (digits.length - behind)
      else '0' :: '.' :: List.replicate (behind - digits.length) '0' ++ digits
  else
    let mantissa := match digits with
      | [] => []
      | [d] => [d]
      | d :: more => d :: '.' :: more
    mantissa ++ 'e' :: (toString exponent).toList

def text (format : BinaryFormat) (bits : Nat) : String :=
  let fraction := bits % 1 <<< format.fraction
  let biased := bits >>> format.fraction % 1 <<< format.exponent
  let sign := if bits.testBit (format.fraction + format.exponent) then ['-'] else []
  if biased = 1 <<< format.exponent - 1 then
    if fraction = 0 then String.ofList (sign ++ ['i', 'n', 'f']) else "NaN"
  else if biased = 0 ∧ fraction = 0 then String.ofList (sign ++ ['0', '.', '0'])
  else
    let (n, power) := (interval format biased fraction).digits
    String.ofList (sign ++ layout (Nat.toDigits 10 n) power)

end CliMetadata.Shortest
