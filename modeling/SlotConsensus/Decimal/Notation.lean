import SlotConsensus.Decimal.Shortest

/-! Texts of doubles: a form record says when a number is written with a point among its digits and
when with an exponent. -/

namespace SlotConsensus.Decimal

/-- How doubles are written.  Numbers whose first digit stands for a power of ten from `lowest` to
`highest` are written without an exponent.  An exponent has a sign and no zeros in front. -/
structure Form where
  lowest : Int
  highest : Int

namespace Form

/-- The digits without the zeros at the end. -/
def significant (digits : Nat) : List Char :=
  ((Nat.toDigits 10 digits).reverse.dropWhile (· = '0')).reverse

/-- The text of a positive number whose first digit stands for `10 ^ magnitude`. -/
def write (f : Form) (digits : List Char) (magnitude : Int) : List Char :=
  if f.lowest ≤ magnitude ∧ magnitude ≤ f.highest then
    if magnitude < 0 then '0' :: '.' :: List.replicate (-magnitude - 1).toNat '0' ++ digits
    else
      let whole := magnitude.toNat + 1
      if digits.length ≤ whole then
        digits ++ List.replicate (whole - digits.length) '0' ++ ['.', '0']
      else digits.take whole ++ '.' :: digits.drop whole
  else
    let tail := match digits.drop 1 with
      | [] => []
      | more => '.' :: more
    digits.take 1 ++ tail ++ ['e', if magnitude < 0 then '-' else '+'] ++
      Nat.toDigits 10 magnitude.natAbs

/-- The text of a finite double. -/
def text (f : Form) (x : Float) : String :=
  let sign := if x.toBits.toNat < 0x8000000000000000 then [] else ['-']
  let span := Span.ofFloat x
  let body :=
    if span.value = 0 then ['0', '.', '0']
    else
      let number := span.shortest
      let all := Nat.toDigits 10 number.digits
      f.write (significant number.digits) (number.exponent + Int.ofNat all.length - 1)
  String.ofList (sign ++ body)

end Form

end SlotConsensus.Decimal
