/-
  GrammarBindings.Loading

  Specs and templates from files.  All functions take the way in which files are
  read as an argument and read nothing else.
-/
import GrammarBindings.Config
import GrammarBindings.FileTree.Access
import GrammarBindings.Log
import GrammarBindings.Template.Collection

namespace GrammarBindings

/-- A way to read files: the bytes under a path, or why there are none. -/
abbrev Reader := Path → Except FileError ByteArray

/-! ## Failures -/

/-- Why a spec or a collection of templates is not loaded. -/
inductive LoadError
  /-- A configuration file is not read. -/
  | unreadable (path : Path) (cause : FileError)
  /-- A configuration file is read and holds no configuration. -/
  | unparsable (path : Path) (cause : Config.ParseError)
  /-- A template is not read. -/
  | template (path : Path) (cause : FileError)
  deriving DecidableEq, Repr

/-- A failure in words. -/
def LoadError.message : LoadError → String
  | unreadable path cause => "could not read '" ++ path.text ++ "': " ++ cause.message
  | unparsable path cause => "could not parse '" ++ path.text ++ "': " ++ cause.message
  | template path cause => "failed to read template '" ++ path.text ++ "': " ++ cause.message

/-! ## Loading -/

namespace Reader

/-- The text under a path. -/
def text (read : Reader) (path : Path) : Except FileError String :=
  match read path with
  | .error e => .error e
  | .ok bytes =>
    match String.fromUTF8? bytes with
    | some s => .ok s
    | none => .error .notText

/-- The spec in the configuration file at a path.  The directory of the file is
    the one from which the grammar's repository is found. -/
def spec (read : Reader) (path : Path) : Except LoadError Spec :=
  match read.text path with
  | .error e => .error (.unreadable path e)
  | .ok content =>
    match Config.parse content with
    | .error e => .error (.unparsable path e)
    | .ok config => .ok (config.toSpec (path.parent?.getD ⟨"/"⟩))

/-- The path of a template in a directory. -/
def templatePath (dir : Path) (kind : ArtifactKind) : Path := dir.child kind.templateFile

/-- The template of a kind in a directory. -/
def template (read : Reader) (dir : Path) (kind : ArtifactKind) : Except LoadError String :=
  match read.text (templatePath dir kind) with
  | .ok content => .ok content
  | .error e => .error (.template (templatePath dir kind) e)

/-- The paths of the templates in a directory, none if no directory is given. -/
def templatePaths : Option Path → List Path
  | none => []
  | some dir => ArtifactKind.all.map (templatePath dir)

/-- The templates in a directory, all of which have to be there, or the built-in
    ones if no directory is given. -/
def templates (read : Reader) : Option Path → Except LoadError TemplateCollection
  | none => .ok .builtin
  | some dir => TemplateCollection.loadM (read.template dir)

/-! ## What is read -/

theorem spec_congr {read other : Reader} {path : Path} (h : read path = other path) :
    read.spec path = other.spec path := by
  simp only [spec, text, h]

theorem templates_congr {read other : Reader} {dir : Option Path}
    (h : ∀ path ∈ templatePaths dir, read path = other path) :
    read.templates dir = other.templates dir := by
  cases dir with
  | none => rfl
  | some dir =>
    have hkind : read.template dir = other.template dir := by
      funext kind
      have hp := h _ (List.mem_map_of_mem (ArtifactKind.mem_all kind))
      simp only [template, text, hp]
    simp only [templates, hkind]

end Reader

/-- The events that warn of placeholders without a value. -/
def TemplateCollection.warnings (ts : TemplateCollection) : List Event :=
  ArtifactKind.all.filterMap fun kind =>
    match ts.unknownPlaceholders kind with
    | [] => none
    | names => some (.strayPlaceholders kind names)

end GrammarBindings
