import TokenAgent.Text.Hex

/-!
# Status words

The last two bytes of every response of a token say how the command went.
-/

namespace TokenAgent

/-- A status word. -/
structure Status where
  code : UInt16
  deriving DecidableEq, Repr

namespace Status

def success : Status := ⟨0x9000⟩

/-- The command was carried out. -/
def isSuccess (s : Status) : Bool := s == success

/-- More data is available, which is no failure: `61xx` and `6Cxx`. -/
def isMoreData (s : Status) : Bool :=
  let high := s.code &&& 0xFF00
  high == 0x6100 || high == 0x6C00

def text (s : Status) : String :=
  "0x" ++ Hex.upper 4 s.code.toNat

/-- What the word means, for people.  Codes of their own come before the `61xx` and `6Cxx`
families. -/
def cause (s : Status) : String :=
  match s.code.toNat with
  | 0x9000 => "success"
  | 0x6982 => "security status not satisfied (is a custom CA still installed?)"
  | 0x6985 => "condition of use not satisfied (denied by the user?)"
  | 0x6A83 => "the application requires a library that is not installed"
  | 0x6A84 | 0x6A85 => "not enough space on the device"
  | 0x6484 => "wrong target id"
  | 0x6B01 => "invalid parameter"
  | 0x6D00 | 0x6E00 => "unexpected device state (is the right application open?)"
  | _ => if s.isMoreData then "more data available"
         else "unknown reason (device disconnected?)"

/-- The report of a refused command. -/
def refusal (s : Status) : String :=
  s!"device returned status {s.text}: {s.cause}"

end Status

end TokenAgent
