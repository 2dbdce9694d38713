import ArithScan.Proofs.Stepping
import Mathlib.Data.List.DropRight

set_option autoImplicit false

namespace ArithScan

abbrev Log := List (Request × Reply)

def Log.tokens (log : Log) : List Token := log.flatMap fun entry => entry.1.contributes entry.2

namespace Session

def log (session : Session) (requests : List Request) : Log :=
  requests.zip (session.run requests).1

structure Sound (source : Text) (session : Session) : Prop where
  same : session.source = source
  place : source.IsPlace session.cursor

theorem begin_sound (source : Text) : Sound source (begin source) :=
  ⟨rfl, [], source, rfl, rfl⟩

theorem step_sound (source : Text) (session : Session) (position : Nat) (current : Char) (keep : Bool)
    (sound : Sound source session) : Sound source (session.step position current keep).2 := by
  rcases session.step_cases position current keep with refused | ⟨token?, stop, run, taken, moved⟩
  · rw [refused]
    exact sound
  · rw [moved]
    exact ⟨sound.same, sound.same ▸ taken_place _ run position stop token? taken⟩

theorem answer_sound (source : Text) (session : Session) (request : Request) (sound : Sound source session) :
    Sound source (session.answer request).2 := by
  cases request with
  | charAt position => exact sound
  | textFrom position => exact sound
  | atEnd position => exact sound
  | step position current keep => exact step_sound source session position current keep sound
  | next keep =>
      rcases session.next_cases keep with ⟨_, nothing⟩ | ⟨current, _, moved⟩
      · rw [nothing]
        exact sound
      · rw [moved]
        exact step_sound source session session.cursor current keep sound
  | push token => exact ⟨sound.same, sound.place⟩
  | finish => exact sound.same ▸ begin_sound session.source

theorem run_sound (source : Text) (session : Session) (requests : List Request) (sound : Sound source session) :
    Sound source (session.run requests).2 := by
  induction requests generalizing session with
  | nil => exact sound
  | cons request later ih => exact ih _ (answer_sound source session request sound)

end Session

end ArithScan
