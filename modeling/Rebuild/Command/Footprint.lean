import Rebuild.Command.Run

/-!
# What a run looks at

The paths that a run may follow, so that they can be read before it starts. Directories are only
asked for classes that some archive of the previous side has.
-/

namespace Rebuild

namespace Command

def sides : Command → ClasspathSides
  | analyze sides .. | classpath sides _ => sides
  | baselineName .. => ⟨[], []⟩

/-- The paths that the command names. -/
def paths : Command → List Path
  | analyze sides archive _ => sides.previous ++ sides.current ++ [archive]
  | classpath sides _ => sides.previous ++ sides.current
  | baselineName .. => []

/-- The entries that a context is asked for: one for each class of an archive. -/
def classEntries (jar : Jar) : List Path :=
  (jar.entries.filterMap fun entry => EntryName.qualified? entry.name).map fun name =>
    .ofString (EntryName.ofInternal (ClassName.unqualify name))

/-- The paths at which classes are looked for, once the named paths are read. -/
def classPaths (files : FileSystem) (command : Command) : List Path :=
  let jars := command.sides.previous.filterMap fun path => (Jar.load files path).toOption
  let entries := jars.flatMap classEntries
  let directories := (command.sides.previous ++ command.sides.current).filter files.isDirectory
  directories.flatMap fun directory => entries.map directory.join

end Command

namespace Invocation

/-- The paths at which a configuration may lie. -/
def configPaths (invocation : Invocation) (environment : Environment) (directory : Path) :
    List Path :=
  invocation.config.toList ++
    (environment.configPath.toList.map fun text => directory.join (.ofString text)) ++
    [directory.join (.ofString Config.usualName)]

/-- The path of the log, once the configuration is read. -/
def logPath? (invocation : Invocation) (environment : Environment) (files : FileSystem) :
    Option Path :=
  match Config.load files invocation.config environment.configPath files.workingPath with
  | .ok (config, _) => config.logging.file
  | .error _ => none

end Invocation

end Rebuild
