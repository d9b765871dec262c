import TransactSql.Config.FileTree
import TransactSql.Config.Settings

/-!
# Where settings and the worker are found

Settings are read from the file that a variable names, from the working directory, or from the
user's configuration directory, in that order. The worker is where the settings say, or in the
working directory, or in a directory of the search path.
-/

namespace TransactSql

/-- What a process sees of the machine that it runs on. -/
structure Host where
  environment : Environment
  files : FileTree

namespace Host

/-- The directory of the user's configuration files. -/
def configDirectory? (host : Host) : Option String :=
  match host.environment.get? "XDG_CONFIG_HOME" with
  | some path => if FileTree.isAbsolute path then some path else home?
  | none => home?
where
  /-- The usual place below the home directory. -/
  home? : Option String :=
    match host.environment.get? "HOME" with
    | some home => if home = "" then none else some (FileTree.join home ".config")
    | none => none

end Host

namespace Settings

/-- The settings of a file. -/
def ofFile (host : Host) (path : String) : Except SettingsError Settings :=
  match host.files.entry? path with
  | none => .error (.fileNotFound path)
  | some .directory => .error .unreadable
  | some (.file content) =>
    match String.fromUTF8? content with
    | some text => parse text
    | none => .error .unreadable

/-- The name of a configuration file in the working directory. -/
def fileName : String := "mssql-compiler.toml"

/-- The user's configuration file. -/
def userFile? (host : Host) : Option String :=
  host.configDirectory?.map fun directory =>
    FileTree.join (FileTree.join directory "mssql-compiler") "config.toml"

/-- The settings of the first configuration file that is there. Without one, all is as it is by
default; the file that the variable names must be there. -/
def load (host : Host) : Except SettingsError Settings :=
  match host.environment.get? "MSSQL_COMPILER_CONFIG" with
  | some path => ofFile host path
  | none =>
    match ([fileName] ++ (userFile? host).toList).find? host.files.hasPath with
    | some path => ofFile host path
    | none => .ok {}

/-- The name of the worker's program. -/
def workerName : String := "mssql-worker"

/-- Where the worker is looked for in the working directory. -/
def workerPlaces : List String :=
  ["./" ++ workerName, "./worker/" ++ workerName]

/-- The path of the worker. A path in the settings is taken as it is, and is of no use when it
names a variable that is not set. -/
def workerPath? (s : Settings) (host : Host) : Option String :=
  match s.worker.path with
  | some path => (host.environment.expand path).toOption
  | none =>
    match workerPlaces.find? host.files.hasPath with
    | some path => some path
    | none =>
      (host.environment.get? "PATH").bind fun path =>
        ((Text.split ':' path).map (FileTree.join · workerName)).find? host.files.isFile

end Settings

end TransactSql
