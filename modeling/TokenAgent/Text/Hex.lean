/-!
# Hexadecimal text

`Hex.lower` and `Hex.upper` write a number with at least a given count of digits, padded with
zeros on the left.
-/

namespace TokenAgent

namespace Hex

/-- The digits of `n`, at least `width` of them, in small letters. -/
def lower (width n : Nat) : String :=
  let digits := Nat.toDigits 16 n
  String.ofList (List.replicate (width - digits.length) '0' ++ digits)

/-- The digits of `n`, at least `width` of them, in capitals. -/
def upper (width n : Nat) : String :=
  String.ofList ((lower width n).toList.map Char.toUpper)

end Hex

end TokenAgent
