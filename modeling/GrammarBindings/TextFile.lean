/-
  GrammarBindings.TextFile

  A text together with the path of the file that is to hold it.
-/
import GrammarBindings.Path

namespace GrammarBindings

/-- A text and the path of the file that is to hold it. -/
structure TextFile where
  path : Path
  contents : String
  deriving DecidableEq, Repr

namespace TextFile

/-- Whether some bytes are exactly those of the text. -/
def agreesWith (file : TextFile) (bytes : ByteArray) : Bool :=
  bytes.data = file.contents.toUTF8.data

theorem agreesWith_iff {file : TextFile} {bytes : ByteArray} :
    file.agreesWith bytes = true ↔ bytes = file.contents.toUTF8 := by
  simp [agreesWith, ByteArray.ext_iff]

end TextFile

end GrammarBindings
