import AutomationIndex.Project.Descriptor

/-! What a compiler needs to know: include directories in search order, and options. -/

namespace AutomationIndex

/-- A list without the elements that repeat the one before them. -/
def dropRepeats {α : Type} (same : α → α → Bool) : List α → List α
  | [] => []
  | a :: rest =>
    -- The rest is reduced first, so the comparison is with the neighbour that stays.
    match dropRepeats same rest with
    | [] => [a]
    | b :: kept => if same a b then a :: kept else a :: b :: kept

namespace CpuPackage

/-- The include directories, in search order. -/
def includeDirectories (p : CpuPackage) (dedupe : Bool) (projectRoot : Location) :
    List Location :=
  match p.settings.build with
  | none => []
  | some build =>
    -- Each fragment is read below the root, so none leads out of the project.
    let directories := build.includeFragments.map projectRoot.joinProjectRelative
    if dedupe then dropRepeats Location.same directories else directories

/-- The options for C and then the ones for all languages. -/
def buildOptions (p : CpuPackage) : List String :=
  match p.settings.build with
  | none => []
  | some build => build.ansicOptions ++ build.additionalOptions

end CpuPackage

/-- What a compiler needs to know to build with a configuration. -/
structure BuildInfo where
  projectRoot : Location
  configuration : String
  moduleId : Option String
  gccVersion : Option String
  includeDirectories : List Location
  options : List String
  deriving DecidableEq, Repr

end AutomationIndex
