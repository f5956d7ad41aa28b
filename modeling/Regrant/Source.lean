import Regrant.Failure

/-!
# Sources of records

A source cannot be opened, or it yields records in order, each of which may be broken.
-/

namespace Regrant

abbrev Source (α : Type) := Except Failure (List (Except Failure α))

namespace Source

variable {α β : Type}

def ofList (l : List α) : Source α := .ok (l.map .ok)

/-- Records of another kind, those that are broken staying so. -/
def map (f : α → β) (s : Source α) : Source β := Except.map (·.map (Except.map f)) s

/-- The records up to the first that is broken, as values of `f`. -/
def traverse (f : α → Except Failure β) : List (Except Failure α) → Except Failure (List β)
  | [] => .ok []
  | .error e :: _ => .error e
  | .ok a :: rest => match f a with
    | .error e => .error e
    | .ok b => match traverse f rest with
      | .error e => .error e
      | .ok bs => .ok (b :: bs)

/-- All records as values of `f`, or the first failure. -/
def collect (s : Source α) (f : α → Except Failure β) : Except Failure (List β) :=
  s.bind (traverse f)

def all (s : Source α) : Except Failure (List α) := s.collect .ok

end Source

end Regrant
