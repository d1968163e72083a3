-- Configurations in files. A file that is missing, or that holds anything
-- but a configuration, stands for the defaults.
import CueStream.Config.Cue
import CueStream.Config.Model
import CueStream.Text.Utf8

namespace CueStream.ConfigFile

/-- The value of a file with this text, if `ofJson?` finds one in it. -/
def parse? {α : Type} (ofJson? : Json → Option α) (text : Text) : Option α :=
  (Json.skim? text).bind ofJson?

/-- The value of a file, or the default. There is no text if the file is missing or its bytes
spell none. -/
def load {α : Type} (ofJson? : Json → Option α) (default : α) (text : Option Text) : α :=
  (text.bind (parse? ofJson?)).getD default

def loadCue (text : Option Text) : CueConfig :=
  load CueConfig.ofJson? {} text

def loadModel (text : Option Text) : ModelConfig :=
  load ModelConfig.ofJson? {} text

/-- The text under which the settings of a session are saved. -/
def saveCue (c : CueConfig) : Text :=
  c.toJson.lines

/-- The text under which the choice of a model is saved. -/
def saveModel (c : ModelConfig) : Text :=
  c.toJson.lines

/-! ## Places that cannot be written to -/

/-- Why a file cannot be written. -/
inductive SaveError where
  /-- The directory that should hold the file is a file itself. -/
  | parentIsFile
  /-- The file is a directory. -/
  | isDirectory
  deriving DecidableEq, Repr

def SaveError.message : SaveError → Text
  | parentIsFile => "Failed to create config directory: File exists (os error 17)".toList
  | isDirectory => "Failed to write config file: Is a directory (os error 21)".toList

end CueStream.ConfigFile
