import TickCapture.Bytes
import TickCapture.Text.Utf8

/-! # The environment of a process

Variables with their values, which are bytes: not every value is a text. -/

namespace TickCapture

/-! ## The variables with settings -/

namespace Variable

def config : String := "SYNCHRONOME_CONFIG"

def device : String := "SYNCHRONOME_DEVICE"
def outputDir : String := "SYNCHRONOME_OUTPUT_DIR"
def count : String := "SYNCHRONOME_COUNT"
def stillThreshold : String := "SYNCHRONOME_STILL_THRESHOLD"
def movingThreshold : String := "SYNCHRONOME_MOVING_THRESHOLD"
def realtime : String := "SYNCHRONOME_REALTIME"

def log : String := "RUST_LOG"

def all : List String :=
  [config, device, outputDir, count, stillThreshold, movingThreshold, realtime, log]

end Variable

/-! ## Values -/

structure Environment where
  values : List (String × Bytes)
  deriving Repr

namespace Environment

def bytes? (e : Environment) (name : String) : Option Bytes := e.values.lookup name

def text? (e : Environment) (name : String) : Option String :=
  (e.bytes? name).bind fun bytes => strictText? bytes.toList

end Environment
end TickCapture
