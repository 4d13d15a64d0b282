import Rebuild.Config.Basic

/-!
# Finding the configuration

A file that is named, by an option or in the environment, is used whether it is there or not, so
that a wrong name is an error. Only the file with the usual name may be missing.
-/

namespace Rebuild.Config

def usualName : String := "jarguard.toml"

/-- The file to use: the named one, the one of the environment, which is read from the directory,
or the one with the usual name in the directory. -/
def discover (files : FileSystem) (named : Option Path) (environment : Option String)
    (directory : Path) : Option Path :=
  match named, environment.filter (!·.isEmpty) with
  | some path, _ => some path
  | none, some text => some (directory.join (.ofString text))
  | none, none => (some (directory.join (.ofString usualName))).filter files.isFile

def loadFile (files : FileSystem) (path : Path) : Except ConfigError Config :=
  match files.read path with
  | .error error => .error (.unreadable path (.file error))
  | .ok bytes =>
    match Utf8.text? bytes.toList with
    | none => .error (.unreadable path .notText)
    | some text => parse text

/-- The configuration of a run and the file that it is from. Without a file, all is as usual. -/
def load (files : FileSystem) (named : Option Path) (environment : Option String)
    (directory : Path) : Except ConfigError (Config × Option Path) :=
  match discover files named environment directory with
  | none => .ok ({}, none)
  | some path => (loadFile files path).map fun config => (config, some path)

end Rebuild.Config
