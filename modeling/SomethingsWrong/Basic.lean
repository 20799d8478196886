import Mathlib.Data.List.Basic

/-! Data shared by the C# side: instants and durations in ticks of 100 ns, log
lines, exceptions and the fields of a monitor action. -/
namespace SomethingsWrong

/-- A `DateTime` or `TimeSpan` is the number of its ticks. -/
def ticksPerSecond : Int := 10000000

/-- `new TimeSpan(hours, minutes, seconds)` -/
def timeSpan (hours minutes seconds : Int) : Int :=
  (hours * 3600 + minutes * 60 + seconds) * ticksPerSecond

structure FileInfo where
  name : String
  fullName : String
  deriving DecidableEq

inductive LogLevel where
  | debug | info | error
  deriving DecidableEq

structure LogLine where
  level : LogLevel
  text : String
  deriving DecidableEq

/-- The code only asks whether an exception is a `WebException`, and for its message. -/
inductive Exn where
  | webException (message : String)
  | exception (message : String)
  deriving DecidableEq

def Exn.message : Exn → String
  | .webException message => message
  | .exception message => message

/-- A monitor object. `ref` is its identity: two objects may agree in every field.
The mutable `MarkedAsFailing` is not a field here but part of the detector's state. -/
structure MonitorAction where
  ref : Nat
  name : String
  lightAlarmDurationInSeconds : Int
  soundFiles : List FileInfo
  failAtNetworkException : Bool
  deriving DecidableEq

end SomethingsWrong
