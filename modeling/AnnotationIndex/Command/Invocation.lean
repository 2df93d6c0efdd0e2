import AnnotationIndex.Run.Config

/-!
# Invocations

What the program is asked to do. Options given with a command win over the configuration file, and
the configuration file wins over the defaults.
-/

namespace AnnotationIndex

inductive QueryTarget where
  | classes | methods | properties | all
  deriving DecidableEq, Repr

namespace QueryTarget

def choices : List (String × QueryTarget) :=
  [("classes", classes), ("methods", methods), ("properties", properties), ("all", all)]

/-- Whether a query for one target also answers for another. -/
def covers (wanted target : QueryTarget) : Bool := wanted = all || wanted = target

end QueryTarget

structure GenerateOptions where
  roots : List Path := []
  exclude : Option String := none
  output : Option Path := none
  cacheDirectory : Option Path := none
  noCache : Bool := false
  noCaptureArguments : Bool := false
  deriving DecidableEq, Repr

def Config.overridden (c : Config) (options : GenerateOptions) : Config :=
  { c with
    includePaths := if options.roots.isEmpty then c.includePaths else options.roots
    excludePattern := options.exclude <|> c.excludePattern
    outputPath := options.output.getD c.outputPath
    cacheDirectory := options.cacheDirectory.getD c.cacheDirectory
    useCache := c.useCache && !options.noCache
    captureArguments := c.captureArguments && !options.noCaptureArguments }

inductive Command where
  | generate (options : GenerateOptions)
  | query (artifact : Option Path) (kind : String) (target : QueryTarget)
  | forClass (typeName : String) (artifact : Option Path)
  | stats (cacheDirectory : Option Path)
  | clear (cacheDirectory : Option Path)
  deriving DecidableEq, Repr

/-- A command with what holds for all commands. -/
structure Invocation where
  command : Command
  config : Option Path := none
  verbosity : Nat := 0
  deriving DecidableEq, Repr

namespace Invocation

def baseConfig (i : Invocation) (tree : FileTree) : Except Failure Config :=
  match i.config with
  | some path => Config.load tree path
  | none => .ok {}

/-- The path of the artifact. A configuration is only read if no path is given. -/
def artifactPath (i : Invocation) (tree : FileTree) (given : Option Path) : Except Failure Path :=
  match given with
  | some path => .ok path
  | none => (i.baseConfig tree).map (·.outputPath)

def cacheDirectory (i : Invocation) (tree : FileTree) (given : Option Path) :
    Except Failure Path :=
  match given with
  | some path => .ok path
  | none => (i.baseConfig tree).map (·.cacheDirectory)

end Invocation

end AnnotationIndex
