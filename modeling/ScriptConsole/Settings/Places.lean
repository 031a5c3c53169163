import ScriptConsole.Settings.Basic

/-! Where the console keeps its files: the settings in a directory for configuration, the history in
a directory of its own below the home directory. -/
namespace ScriptConsole

structure Places where
  configuration : Text
  home : Text
  deriving DecidableEq, Repr

namespace Places

def settingsFile (p : Places) : Text := Path.join p.configuration "config.json".toList

def stateDirectory (p : Places) : Text := Path.join p.home ".cyrepl".toList

def historyFile (p : Places) (s : Settings) : Text :=
  s.history.file.getD (Path.join p.stateDirectory "history".toList)

/- Makes the directory for the history, open to its owner alone, unless something is there. -/
def makeStateDirectory (p : Places) (files : Files) : Except IoError Files :=
  match files.makeDirectories (Path.resolve [] p.stateDirectory) 0o700 with
  | .error .alreadyExists => .ok files
  | result => result

end Places

end ScriptConsole
