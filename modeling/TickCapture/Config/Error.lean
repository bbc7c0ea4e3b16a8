import TickCapture.Failure
import TickCapture.Stage.Basic

/-! # Errors in the configuration -/

namespace TickCapture

inductive FileFormat where
  | json
  | toml
  deriving DecidableEq, Repr

def FileFormat.name : FileFormat → String
  | json => "JSON"
  | toml => "TOML"

inductive ConfigError where
  /-- The settings file cannot be read, or is not text. -/
  | unreadable (path : String) (cause : IoError)
  /-- The settings file does not follow its notation, or gives a setting a value of the wrong kind. -/
  | malformed (path : String) (format : FileFormat)
  | backpressure (error : Backpressure.Unknown)
  | notCount (name : String)
  | notNumber (name : String)
  | notTruth (name : String)
  | noDevice
  | tooFewBuffers
  | separatorInName
  | settings (error : SettingsError)
  deriving Repr

def ConfigError.message : ConfigError → String
  | unreadable path cause => s!"failed to read config file {path}: {cause.message}"
  | malformed path format => s!"invalid config file {path}: no settings in {format.name}"
  | backpressure error => error.message
  | notCount name => s!"{name} must be a positive integer"
  | notNumber name => s!"{name} must be a number"
  | notTruth name => s!"{name} must be true or false"
  | noDevice => "camera device must be set"
  | tooFewBuffers => "at least 2 driver buffers are required"
  | separatorInName => "file prefix must not contain a path separator"
  | settings error => error.message

end TickCapture
