import Rebuild.Archive.Jar
import Rebuild.Classpath.Error
import Rebuild.Classpath.ResourceSet

/-!
# Contexts for loading classes

A context finds classes on one side of a classpath. Entries are searched in order and the first one
that has the class decides, also when its class is no good. Loaded classes and opened jars are kept
and never shared, so two contexts can hold different definitions of one name.
-/

namespace Rebuild

/-- What a path of a classpath stands for. -/
inductive ClasspathEntry
  | classDirectory (path : Path)
  | jar (path : Path)
deriving DecidableEq, Repr

namespace ClasspathEntry

def path : ClasspathEntry → Path
  | classDirectory path => path
  | jar path => path

/-- Directories hold classes, and anything else is taken for an archive. -/
def ofPath (files : FileSystem) (path : Path) : ClasspathEntry :=
  if files.isDirectory path then classDirectory path else jar path

end ClasspathEntry

/-- A class and the classpath entry that it was found in. -/
structure LoadedClass where
  binaryName : String
  origin : Path
  file : ClassFile
deriving Repr

/-- An entry that is searched. A jar is opened when it is first asked. -/
inductive ClassSource
  | directory (path : Path)
  | jar (path : Path) (opened : Option Jar)

namespace ClassSource

def path : ClassSource → Path
  | directory path => path
  | jar path _ => path

def readDirectory (files : FileSystem) (path : Path) (entry : String) :
    Except ClasspathError (Option ByteArray) :=
  let candidate := path.join (.ofString entry)
  match files.read candidate with
  | .ok bytes => .ok (some bytes)
  | .error .notFound => .ok none
  | .error error => .error (.file candidate error)

/-- The bytes that a jar has for an entry name, and the jar as a source. -/
def readJar (path : Path) (entry : String) (opened : Jar) :
    Inquiry (Except ClasspathError (Option ByteArray) × ClassSource) := do
  let (result, opened) ← opened.fetch entry
  return (result.mapError .archive, jar path (some opened))

/-- The bytes that the source has for an entry name, and the source with its jar open. -/
def read (entry : String) :
    ClassSource → Inquiry (Except ClasspathError (Option ByteArray) × ClassSource)
  | directory path => return (readDirectory (← Inquiry.files) path entry, directory path)
  | jar path (some opened) => readJar path entry opened
  | jar path none => do
    match ← Jar.acquire path with
    | .error error => return (.error (.archive error), jar path none)
    | .ok opened => readJar path entry opened

/-- Asks the sources in order until one has the entry or fails. -/
def firstWith (entry : String) :
    List ClassSource →
      Inquiry (Except ClasspathError (Option (Path × ByteArray)) × List ClassSource)
  | [] => return (.ok none, [])
  | source :: others => do
    let (found, source) ← source.read entry
    match found with
    | .error error => return (.error error, source :: others)
    | .ok (some bytes) => return (.ok (some (source.path, bytes)), source :: others)
    | .ok none =>
      let (found, others) ← firstWith entry others
      return (found, source :: others)

def release : ClassSource → Inquiry Unit
  | jar _ (some opened) => opened.release
  | _ => return ()

end ClassSource

/-- The class that bytes from an entry define, which has to be the one that was asked for. -/
def LoadedClass.define (name : String) (origin : Path) (bytes : ByteArray) :
    Except ClasspathError LoadedClass :=
  match ClassFile.parse bytes.toList with
  | .error error => .error (.classFile name origin error)
  | .ok file =>
    if file.thisClass = ClassName.unqualify name then .ok ⟨name, origin, file⟩
    else .error (.nameMismatch origin (ClassName.unqualify name) file.thisClass)

structure ClassContext where
  /-- Names the context in errors and logs. -/
  label : String
  sources : List ClassSource
  loaded : List (String × LoadedClass) := []

namespace ClassContext

def logTarget : String := "jarguard.classpath"

/-- The sources of a classpath. Paths that are neither directories nor files are skipped. -/
def sourcesOf (label : String) : List Path → Inquiry (List ClassSource)
  | [] => return []
  | path :: paths => do
    let files ← Inquiry.files
    match ClasspathEntry.ofPath files path with
    | .classDirectory path => return .directory path :: (← sourcesOf label paths)
    | .jar path =>
      if files.isFile path then return .jar path none :: (← sourcesOf label paths)
      else
        Inquiry.emit ⟨.debug, logTarget, "skipping missing classpath entry",
          [("context", .shown label), ("path", .shown path.shown)]⟩
        sourcesOf label paths

def create (label : String) (resources : ResourceSet) : Inquiry ClassContext := do
  return { label, sources := ← sourcesOf label resources.paths }

def loadedCount (context : ClassContext) : Nat := context.loaded.length

def isLoaded (context : ClassContext) (name : String) : Bool :=
  (context.loaded.lookup name).isSome

/-- The class of a qualified name. A class that is loaded once stays; a failure is not kept. -/
def load (name : String) (context : ClassContext) :
    Inquiry (Except ClasspathError LoadedClass × ClassContext) :=
  match context.loaded.lookup name with
  | some found => return (.ok found, context)
  | none => do
    let entry := EntryName.ofInternal (ClassName.unqualify name)
    let (found, sources) ← ClassSource.firstWith entry context.sources
    let context := { context with sources }
    match found with
    | .error error => return (.error error, context)
    | .ok none => return (.error (.classNotFound name context.label), context)
    | .ok (some (origin, bytes)) =>
      match LoadedClass.define name origin bytes with
      | .error error => return (.error error, context)
      | .ok loaded =>
        Inquiry.emit ⟨.trace, logTarget, "loaded class",
          [("context", .shown context.label), ("class", .quotedText name),
            ("origin", .shown origin.shown)]⟩
        return (.ok loaded, { context with loaded := (name, loaded) :: context.loaded })

/-- Closes the jars that are open, in the order of the sources. -/
def release (context : ClassContext) : Inquiry Unit := context.sources.forM ClassSource.release

end ClassContext

end Rebuild
