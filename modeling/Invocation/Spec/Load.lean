import Invocation.FileTree
import Invocation.Schema.Spec
import Invocation.Text.LineBreak
import Invocation.Text.Utf8
import Invocation.Yaml.Document

/-!
# Loading specifications

A specification is read from a file: its bytes are text, the text is a YAML document, and the value of the document has
the form of a specification. What fails first is reported.
-/

namespace Invocation

namespace Spec

inductive LoadFault where
  | unreadable (path : Path) (f : FileFault)
  | undecodable (e : Utf8.DecodeError)
  | badDocument (source : Text) (f : Yaml.Fault)
  | badSpec (f : SpecFault)
deriving DecidableEq

def LoadFault.message : LoadFault → Text
  | unreadable path f => f.message path
  | undecodable e => e.message
  | badDocument source f => f.message source
  | badSpec f => f.message

/-- The specification that the bytes of a file hold. -/
def ofBytes (bytes : List UInt8) : Except LoadFault Spec := do
  let source ← (Utf8.decode bytes).mapError .undecodable
  let source := source.normalizeBreaks
  let document ← (Yaml.read source).mapError (.badDocument source)
  (ofDocument document).mapError .badSpec

def load (files : FileTree) (path : Path) : Except LoadFault Spec := do
  let bytes ← (files.read path).mapError (.unreadable path)
  ofBytes bytes

end Spec

end Invocation
