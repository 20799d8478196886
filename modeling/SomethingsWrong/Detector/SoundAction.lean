import SomethingsWrong.Basic

/-! `SoundAction`, whose `Start` lets the exceptions of the player and of an empty file
list through. It neither reads nor writes the shared flag. -/
namespace SomethingsWrong.SoundAction

/-- `SoundAction.ListFiles` -/
def listFiles (files : List FileInfo) : String :=
  files.foldl (fun r fileInfo => r ++ fileInfo.name ++ "; ") ""

/-- `SoundAction.GetRandomSoundFile`: `random` is what `Next(0, files.Count)` draws,
which is zero for an empty list, and then the index is out of range. -/
def getRandomSoundFile (files : List FileInfo) (random : Nat) : Except Exn FileInfo :=
  match files[random % files.length]? with
  | some file => .ok file
  | none => .error (.exception "Index was out of range.")

/-- `SoundAction.Start`; `play` is the player's answer to the file it is given. -/
def start (monitorAction : MonitorAction) (random : Nat) (play : FileInfo → Except Exn Unit) :
    Except Exn Unit × List LogLine :=
  (getRandomSoundFile monitorAction.soundFiles random >>= play,
    [⟨.info, "ENABLING sound alarm: " ++ listFiles monitorAction.soundFiles⟩])

end SomethingsWrong.SoundAction
