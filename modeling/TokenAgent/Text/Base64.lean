import TokenAgent.Bytes

/-!
# Base64

The standard alphabet, padded to a multiple of four characters.
-/

namespace TokenAgent

namespace Base64

def alphabet : List Char :=
  "ABCDEFGHIJKLMNOPQRSTUVWXYZabcdefghijklmnopqrstuvwxyz0123456789+/".toList

/-- The character of a value below 64. -/
def digit (n : Nat) : Char :=
  alphabet.getD n '='

/-- Three bytes make four characters; a shorter last group is padded. -/
def encodeChars : Bytes → List Char
  | [] => []
  | [a] =>
      let n := a.toNat * 65536
      [digit (n / 262144), digit (n / 4096 % 64), '=', '=']
  | [a, b] =>
      let n := a.toNat * 65536 + b.toNat * 256
      [digit (n / 262144), digit (n / 4096 % 64), digit (n / 64 % 64), '=']
  | a :: b :: c :: rest =>
      let n := a.toNat * 65536 + b.toNat * 256 + c.toNat
      digit (n / 262144) :: digit (n / 4096 % 64) :: digit (n / 64 % 64) :: digit (n % 64)
        :: encodeChars rest

def encode (bs : Bytes) : String :=
  String.ofList (encodeChars bs)

end Base64

end TokenAgent
