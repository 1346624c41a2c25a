/-
  GrammarBindings.Template.Collection

  A complete collection of templates, one for each file of a binding.
-/
import GrammarBindings.Template
import GrammarBindings.Template.Builtin

namespace GrammarBindings

/-- One template for each kind of file. -/
structure TemplateCollection where
  common : String
  native : String
  jvm : String
  android : String
  jni : String
  build : String
  interop : String
  deriving DecidableEq, Repr

namespace TemplateCollection

/-- The template of a kind. -/
def get (ts : TemplateCollection) : ArtifactKind → String
  | .common => ts.common
  | .native => ts.native
  | .jvm => ts.jvm
  | .android => ts.android
  | .jni => ts.jni
  | .build => ts.build
  | .interop => ts.interop

/-- The collection that `load` gives, asked for the kinds in their order. -/
def loadM {m : Type → Type} [Monad m] (load : ArtifactKind → m String) :
    m TemplateCollection := do
  let common ← load .common
  let native ← load .native
  let jvm ← load .jvm
  let android ← load .android
  let jni ← load .jni
  let build ← load .build
  let interop ← load .interop
  return ⟨common, native, jvm, android, jni, build, interop⟩

/-- The built-in templates. -/
def builtin : TemplateCollection := Id.run (loadM fun kind => pure kind.builtinTemplate)

theorem get_builtin (kind : ArtifactKind) : builtin.get kind = kind.builtinTemplate := by
  cases kind <;> rfl

/-- The placeholders in the template of a kind that will be given no value. -/
def unknownPlaceholders (ts : TemplateCollection) (kind : ArtifactKind) : List String :=
  (Template.placeholders (ts.get kind)).filter fun name => !kind.placeholders.contains name

end TemplateCollection

end GrammarBindings
