/-!
# Events and notes

What compiling and checking report beside their results: events, which are counted, and notes for
a log. An observed value carries both in the order in which they arose.
-/

namespace TypedSql

/-- Something that is counted. -/
inductive Event where
  | methodCompiled (operation : String) (folded : Bool)
  | methodRejected (operation : String)
  | columnValidated (failures : Nat)
  | columnMissing
  | definitionRejected
  deriving DecidableEq, Inhabited

inductive NoteLevel where
  | info
  | debug
  | warn
  deriving DecidableEq, Inhabited

def NoteLevel.name : NoteLevel → String
  | info => "INFO"
  | debug => "DEBUG"
  | warn => "WARN"

/-- A line of a log: a message and named fields. -/
structure Note where
  level : NoteLevel
  message : String
  fields : List (String × String)
  deriving DecidableEq, Inhabited

/-- A value, and what was observed on the way to it. -/
structure Observed (α : Type) where
  value : α
  events : List Event := []
  notes : List Note := []

namespace Observed

variable {α β : Type}

instance : Monad Observed where
  pure a := { value := a }
  bind x f :=
    let y := f x.value
    ⟨y.value, x.events ++ y.events, x.notes ++ y.notes⟩

instance : LawfulMonad Observed := LawfulMonad.mk' Observed
  (by intro _ x; simp [Functor.map])
  (by intro _ _ x f; simp [Bind.bind, Pure.pure])
  (by intro _ _ _ x f g; simp [Bind.bind, List.append_assoc])

def event (e : Event) : Observed Unit := { value := (), events := [e] }

def note (n : Note) : Observed Unit := { value := (), notes := [n] }

@[simp] theorem value_pure (a : α) : (pure a : Observed α).value = a := rfl

@[simp] theorem value_bind (x : Observed α) (f : α → Observed β) :
    (x >>= f).value = (f x.value).value := rfl

@[simp] theorem events_pure (a : α) : (pure a : Observed α).events = [] := rfl

@[simp] theorem events_bind (x : Observed α) (f : α → Observed β) :
    (x >>= f).events = x.events ++ (f x.value).events := rfl

@[simp] theorem notes_pure (a : α) : (pure a : Observed α).notes = [] := rfl

@[simp] theorem notes_bind (x : Observed α) (f : α → Observed β) :
    (x >>= f).notes = x.notes ++ (f x.value).notes := rfl

@[simp] theorem value_map (f : α → β) (x : Observed α) : (f <$> x).value = f x.value := rfl

@[simp] theorem events_map (f : α → β) (x : Observed α) : (f <$> x).events = x.events :=
  List.append_nil _

theorem value_mapM (f : α → Observed β) (as : List α) :
    (as.mapM f).value = as.map fun a => (f a).value := by
  induction as with
  | nil => rfl
  | cons a as ih => simp [ih]

theorem events_mapM (f : α → Observed β) (as : List α) :
    (as.mapM f).events = as.flatMap fun a => (f a).events := by
  induction as with
  | nil => rfl
  | cons a as ih => simp [ih]

end Observed

end TypedSql
