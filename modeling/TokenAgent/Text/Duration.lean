/-!
# Durations

A duration is a count of nanoseconds.  Its text uses the largest unit of which it holds at least
one, with as many decimals as it needs: `0ns`, `250µs`, `12.345ms`, `5s`.
-/

namespace TokenAgent

structure Duration where
  nanos : Nat
  deriving DecidableEq, Repr

namespace Duration

def zero : Duration := ⟨0⟩

def ofSeconds (n : Nat) : Duration := ⟨n * 1000000000⟩

def ofMillis (n : Nat) : Duration := ⟨n * 1000000⟩

def ofMicros (n : Nat) : Duration := ⟨n * 1000⟩

/-- Whole seconds. -/
def seconds (d : Duration) : Nat := d.nanos / 1000000000

/-- Nanoseconds past the last whole second. -/
def subNanos (d : Duration) : Nat := d.nanos % 1000000000

/-- Drop trailing zeros. -/
def dropZeros (digits : List Char) : List Char :=
  (digits.reverse.dropWhile (· = '0')).reverse

/-- The count `n` of a unit of `10 ^ places` nanoseconds, with decimals. -/
def inUnit (n places : Nat) (unit : String) : String :=
  let unitNanos := Nat.pow 10 places
  let digits := (toString (n % unitNanos)).toList
  let decimals := dropZeros (List.replicate (places - digits.length) '0' ++ digits)
  let whole := toString (n / unitNanos)
  if decimals.isEmpty then whole ++ unit
  else whole ++ "." ++ String.ofList decimals ++ unit

def text (d : Duration) : String :=
  if 1000000000 ≤ d.nanos then inUnit d.nanos 9 "s"
  else if 1000000 ≤ d.nanos then inUnit d.nanos 6 "ms"
  else if 1000 ≤ d.nanos then inUnit d.nanos 3 "µs"
  else inUnit d.nanos 0 "ns"

end Duration

end TokenAgent
