import ReleaseArtifacts.Fault.Basic
import ReleaseArtifacts.Formula.TemplateText
import ReleaseArtifacts.Profile.Basic
import ReleaseArtifacts.Release
import ReleaseArtifacts.Template.Render

namespace ReleaseArtifacts.Formula

/-!
# Rendering formulas

* `Renderer` — a template that has been read.
* `Renderer.render` — the formula of a package and a release.
* `globals` — the names that a formula template can use.
-/

open Template (Value)

/-! ### What templates see -/

/-- The repository as templates see it. -/
def headValue (h : HeadSource) : Value :=
  .object [("url", .text h.url), ("branch", .text h.branch)]

/-- The data directory as templates see it. -/
def runtimeValue (r : RuntimeLayout) : Value :=
  .object [("home_dir", .text r.homeDir), ("db_env", .text r.dbEnv), ("db_file", .text r.dbFile)]

/-- A launcher as templates see it. -/
def launcherValue (l : Launcher) : Value :=
  .object
    [("name", .text l.name), ("binary", .text l.binary), ("summary", .text l.summary),
      ("pass_db", .boolean l.passDb)]

/-- A smoke test as templates see it. -/
def testValue (t : SmokeTest) : Value :=
  .object [("command", .text t.command), ("expect", .text t.expect)]

/-- Several texts as templates see them. -/
def textsValue (texts : List String) : Value := .list (texts.map .text)

/-- A package as templates see it. -/
def profileValue (p : Profile) : Value :=
  .object
    [("class_name", .text p.className), ("desc", .text p.desc), ("homepage", .text p.homepage),
      ("license", .text p.license), ("head", headValue p.head),
      ("build_dependencies", textsValue p.buildDependencies), ("binaries", textsValue p.binaries),
      ("runtime", runtimeValue p.runtime), ("launchers", .list (p.launchers.map launcherValue)),
      ("test", testValue p.test)]

/-- A release as templates see it. -/
def releaseValue (r : Release) : Value :=
  .object [("version", .text r.version), ("url", .text r.url), ("sha256", .text r.sha256)]

/-- The names that a formula template can use. -/
def globals (p : Profile) (r : Release) : List (String × Value) :=
  [("formula", profileValue p), ("release", releaseValue r),
    ("build_invocation", textsValue p.buildInvocation), ("name_width", .number p.columnWidth)]

/-! ### Renderers -/

/-- A template that has been read. -/
structure Renderer where
  statements : List Template.Statement

/-- Reads a template, unless its tags are malformed. -/
def Renderer.ofTemplate? (source : String) : Option Renderer :=
  (Template.Statement.parse source).map Renderer.mk

/-- The formula of a package and a release. -/
def Renderer.render (renderer : Renderer) (p : Profile) (r : Release) :
    Except Template.Stop String :=
  Template.render renderer.statements (globals p r)

/-- The text of a failure in the template, with its place. -/
def placed (stop : Template.Stop) : String :=
  stop.reason.message ++ " (in " ++ templateName ++ ":" ++ toString stop.line ++ ")"

/-- What a stop amounts to: a fault of the template, except that a padding no line can have ends
    the whole run. -/
def breakdown (stop : Template.Stop) : Breakdown :=
  match stop.reason with
  | .paddingTooWide _ => .aborted
  | _ => .fault (.template templateName (placed stop))

/-- The fault of a template whose tags are malformed. -/
def malformedTemplate : Fault := .template templateName "syntax error"

/-- Reads a template, or reports that its tags are malformed. -/
def Renderer.read (source : String) : Except Breakdown Renderer :=
  match Renderer.ofTemplate? source with
  | some renderer => .ok renderer
  | none => .error (.fault malformedTemplate)

/-- The template of the library. -/
def packageRenderer : Except Breakdown Renderer := Renderer.read templateText

/-- The formula of a package and a release, or how rendering broke down. -/
def Renderer.formula (renderer : Renderer) (p : Profile) (r : Release) : Except Breakdown String :=
  (renderer.render p r).mapError breakdown

end ReleaseArtifacts.Formula
