import Regrant.Failure
import Regrant.Notice

/-!
# Runs

A run is what a computation reported and how it ended.  What was reported before a failure stays.
-/

namespace Regrant

structure Run (α : Type) where
  notices : List Notice
  outcome : Except Failure α

namespace Run

variable {α β : Type}

instance : Inhabited (Run α) := ⟨⟨[], .error .io⟩⟩

def pure (a : α) : Run α := ⟨[], .ok a⟩

/-- Go on with the value of a run; after a failure nothing more is done. -/
def bind (r : Run α) (f : α → Run β) : Run β :=
  match r.outcome with
  | .ok a => ⟨r.notices ++ (f a).notices, (f a).outcome⟩
  | .error e => ⟨r.notices, .error e⟩

instance : Monad Run where
  pure := pure
  bind := bind

def fail (e : Failure) : Run α := ⟨[], .error e⟩

def ofExcept (x : Except Failure α) : Run α := ⟨[], x⟩

def report (n : Notice) : Run Unit := ⟨[n], .ok ()⟩

def reportAll (ns : List Notice) : Run Unit := ⟨ns, .ok ()⟩

instance : MonadExcept Failure Run where
  throw := fail
  tryCatch r handler := match r.outcome with
    | .ok _ => r
    | .error e => ⟨r.notices ++ (handler e).notices, (handler e).outcome⟩

/-- The outcome of a run, whose notices stay. -/
def attempt (r : Run α) : Run (Except Failure α) := ⟨r.notices, .ok r.outcome⟩

end Run

end Regrant
