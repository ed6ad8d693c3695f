/-!
# Events on the way to a value

A `Logged` value carries the events of its computation in their order. A level shows itself and
all that is more severe.
-/

namespace TestHistory

/-- From the most severe to the least. -/
inductive Level where
  | error
  | warn
  | info
  | debug
  deriving DecidableEq, Repr

structure Event where
  level : Level
  message : String
  deriving DecidableEq, Repr

namespace Level

def name : Level → String
  | error => "error"
  | warn => "warn"
  | info => "info"
  | debug => "debug"

def severity : Level → Nat
  | error => 0
  | warn => 1
  | info => 2
  | debug => 3

/-- An event of a level is shown at another level. -/
def shownAt (level threshold : Level) : Bool :=
  level.severity ≤ threshold.severity

/-- Quiet wins over any number of requests for more. -/
def ofFlags (verbose : Nat) (quiet : Bool) : Level :=
  if quiet then error
  else match verbose with
    | 0 => warn
    | 1 => info
    | _ => debug

end Level

def Event.text (e : Event) : String :=
  String.map Char.toUpper e.level.name ++ " " ++ e.message

structure Logged (α : Type) where
  value : α
  events : List Event

namespace Logged

instance : Monad Logged where
  pure a := ⟨a, []⟩
  bind m f := ⟨(f m.value).value, m.events ++ (f m.value).events⟩

@[simp] theorem value_pure {α : Type} (a : α) : (pure a : Logged α).value = a := rfl

@[simp] theorem value_bind {α β : Type} (m : Logged α) (f : α → Logged β) :
    (m >>= f).value = (f m.value).value := rfl

instance : LawfulMonad Logged := LawfulMonad.mk' Logged
  (fun m => congrArg (Logged.mk m.value) (List.append_nil m.events))
  (fun _ _ => rfl)
  (fun m f g => congrArg (Logged.mk _) (List.append_assoc m.events (f m.value).events _))

@[simp] theorem value_map {α β : Type} (f : α → β) (m : Logged α) : (f <$> m).value = f m.value :=
  rfl

@[simp] theorem value_mapM {α β : Type} (f : α → Logged β) (l : List α) :
    (l.mapM f).value = l.map fun a => (f a).value := by
  induction l with
  | nil => rfl
  | cons a l ih => rw [List.mapM_cons, value_bind, value_bind, ih, value_pure, List.map_cons]

def log (level : Level) (message : String) : Logged Unit :=
  ⟨(), [⟨level, message⟩]⟩

def debug (message : String) : Logged Unit := log .debug message
def info (message : String) : Logged Unit := log .info message
def warn (message : String) : Logged Unit := log .warn message

end Logged

end TestHistory
