import TokenAgent.Config.Json
import TokenAgent.Error

/-!
# Configuration files
-/

namespace TokenAgent

namespace Config

/-- The configuration that a file holds; `none` stands for a file that is not there. -/
def ofFile : Option Bytes → Except Error Config
  | none => .error (.stream .notFound)
  | some content =>
      match Utf8.decode? content with
      | none => .error (.stream .notUtf8)
      | some text => (ofJson text).mapError .json

end Config

end TokenAgent
