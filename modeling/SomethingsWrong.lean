import SomethingsWrong.Detector.RunningReason
import SomethingsWrong.Detector.KeepsLit
import SomethingsWrong.Detector.SkippedErrors
import SomethingsWrong.Detector.ThrowingAlerts
import SomethingsWrong.Detector.SharedFlag
import SomethingsWrong.Clock.DayList
import SomethingsWrong.Clock.DailyRing
import SomethingsWrong.Clock.Occurrence
import SomethingsWrong.Controller.RoundTrip
import SomethingsWrong.Controller.Handles
import SomethingsWrong.Firmware.Lamp
import SomethingsWrong.Firmware.Search
