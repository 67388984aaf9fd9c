import ScenarioCheck.State.Merge
import ScenarioCheck.Step.Kind

/-! The state of one scenario run: one bucket of entries per phase. -/
namespace ScenarioCheck.State

open Step (Kind)

structure World where
  ofGiven : Entries := []
  ofWhen : Entries := []
  ofThen : Entries := []
  deriving Inhabited

/-- A required property that is absent or holds nothing. -/
structure Missing where
  phase : Kind
  key : String

def Missing.message (m : Missing) : String :=
  "Key " ++ m.key ++ " is required in " ++ m.phase.name ++ " state"

namespace World

def bucket (w : World) : Kind → Entries
  | .given => w.ofGiven
  | .when => w.ofWhen
  | .then => w.ofThen

def withBucket (w : World) (phase : Kind) (entries : Entries) : World :=
  match phase with
  | .given => { w with ofGiven := entries }
  | .when => { w with ofWhen := entries }
  | .then => { w with ofThen := entries }

def merge (w : World) (phase : Kind) (update : Entries) : Except Conflict World :=
  (State.merge (w.bucket phase) update).map (w.withBucket phase)

/-- The entries of a bucket for those of the given keys that are present, in the order of the
keys. -/
def narrowed (w : World) (phase : Kind) (keys : List String) : Entries :=
  Ordered.ofList (keys.filterMap fun key => (Ordered.get? key (w.bucket phase)).map (key, ·))

def require (w : World) (phase : Kind) (key : String) : Except Missing Value :=
  match Ordered.get? key (w.bucket phase) with
  | none | some .none => .error ⟨phase, key⟩
  | some value => .ok value

def shownBucket (w : World) (phase : Kind) : String :=
  "PhaseState(" ++ phase.name ++ ", " ++ (Value.dict (w.bucket phase)).shown ++ ")"

@[simp] theorem bucket_withBucket_self (w : World) (phase : Kind) (entries : Entries) :
    (w.withBucket phase entries).bucket phase = entries := by cases phase <;> rfl

@[simp] theorem bucket_withBucket_ne (w : World) {phase other : Kind} (entries : Entries)
    (h : other ≠ phase) : (w.withBucket phase entries).bucket other = w.bucket other := by
  cases phase <;> cases other <;> first | rfl | exact absurd rfl h

end World
end ScenarioCheck.State
