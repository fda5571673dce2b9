import HeapScope.Duration
import HeapScope.Error
import HeapScope.TileFlags

namespace HeapScope

inductive ReportCall where
  | beginSpace (event : EventId) (space : SpaceId) (tileCount : UInt32)
  | tileNames (space : SpaceId) (names : List String)
  | streamData (space : SpaceId) (stream : StreamId) (kind : ValueKind) (values : List Int32)
  | control (space : SpaceId) (length : UInt32)
  | putControl (flags : TileFlags)
  | summary (space : SpaceId) (stream : StreamId) (values : List Int32)
  | spaceInfo (space : SpaceId) (info : String)
  | endSpace (space : SpaceId)
  | safepoint (event : EventId)
  | startTimer (now : Duration)
  | stopTimer (now : Duration)
deriving DecidableEq, Repr

class Reporter (ρ : Type) where
  isConnected : ρ → EventId → Bool
  needsTileNames : ρ → SpaceId → Bool
  perform : ρ → ReportCall → Except Error Unit × ρ

structure Silent where
deriving DecidableEq, Repr

instance : Reporter Silent where
  isConnected _ _ := false
  needsTileNames _ _ := false
  perform silent _ := (.ok (), silent)

structure Performance (ρ : Type) where
  outcome : Except Error Unit
  made : List ReportCall
  reporter : ρ

def performAll [Reporter ρ] (reporter : ρ) : List ReportCall → Performance ρ
  | [] => ⟨.ok (), [], reporter⟩
  | call :: calls =>
    match Reporter.perform reporter call with
    | (.error error, reporter) => ⟨.error error, [call], reporter⟩
    | (.ok (), reporter) =>
      let rest := performAll reporter calls
      { rest with made := call :: rest.made }

theorem perform_all_silent (calls : List ReportCall) :
    performAll Silent.mk calls = ⟨.ok (), calls, Silent.mk⟩ := by
  induction calls with
  | nil => rfl
  | cons call calls ih => simp [performAll, Reporter.perform, ih]

end HeapScope
