import JavaHome.Failure
import JavaHome.Result

/-!
# Events of discovery

What discovery tells about its decisions, and computations that tell such events on their way to an
answer or a failure.
-/

namespace JavaHome

/-- How much an event matters. -/
inductive Level where
  | debug
  | info
  | warning
  deriving Repr, DecidableEq

/-- The word for a level. -/
def Level.word : Level → String
  | debug => "DEBUG"
  | info => "INFO"
  | warning => "WARNING"

/-- A decision of discovery: properties were read from a file, a development archive decided the
home, a run-time environment was found inside a development kit, a tool was found on the search
path, or nowhere. -/
inductive Event where
  | propertiesLoaded (source : String)
  | archiveFound (archive home : Path)
  | embeddedRuntime (base : Path)
  | foundOnPath (tool : String) (home found : Path)
  | notFound (tool : String) (home : Path)
  deriving Repr, DecidableEq

namespace Event

/-- How much an event matters. -/
def level : Event → Level
  | propertiesLoaded _ => .debug
  | archiveFound _ _ => .debug
  | embeddedRuntime _ => .debug
  | foundOnPath _ _ _ => .info
  | notFound _ _ => .warning

/-- The wording of an event. -/
def message : Event → String
  | propertiesLoaded source => "Loaded JVM properties from " ++ source
  | archiveFound archive home =>
    "Found " ++ archive.text ++ ", using " ++ home.text ++ " as java home"
  | embeddedRuntime base => base.text ++ " is the JRE of an enclosing JDK"
  | foundOnPath tool home found =>
    "Unable to find the '" ++ tool ++ "' executable using home: " ++ home.text
      ++ ". We found it on the PATH: " ++ found.text ++ "."
  | notFound tool home =>
    "Unable to find the '" ++ tool ++ "' executable. Tried the java home: " ++ home.text
      ++ " and the PATH. We will assume the executable can be ran in the current working folder."

end Event

/-- A computation that ended in an answer or a failure, with the events told on the way. -/
structure Traced (α : Type) where
  events : List Event
  result : Except Failure α

namespace Traced

/-- What a computation comes to when it is followed by another one. -/
def andThen {α β : Type} (x : Traced α) (f : α → Traced β) : Traced β :=
  match x.result with
  | .ok a => ⟨x.events ++ (f a).events, (f a).result⟩
  | .error e => ⟨x.events, .error e⟩

instance : Monad Traced where
  pure a := ⟨[], .ok a⟩
  bind := andThen

/-- Tell an event. -/
def tell (event : Event) : Traced Unit :=
  ⟨[event], .ok ()⟩

/-- End in a failure. -/
def fail {α : Type} (failure : Failure) : Traced α :=
  ⟨[], .error failure⟩

/-- A computation that tells nothing. -/
def ofExcept {α : Type} (result : Except Failure α) : Traced α :=
  ⟨[], result⟩

@[simp] theorem result_pure {α : Type} (a : α) : (pure a : Traced α).result = .ok a := rfl

@[simp] theorem result_bind {α β : Type} (x : Traced α) (f : α → Traced β) :
    (x >>= f).result = x.result >>= fun a => (f a).result := by
  change (andThen x f).result = _
  unfold andThen
  cases x.result <;> rfl

@[simp] theorem result_ofExcept {α : Type} (r : Except Failure α) : (ofExcept r).result = r := rfl

/-- A computation followed by another one ends in an answer if and only if both do. -/
theorem result_bind_eq_ok_iff {α β : Type} {x : Traced α} {f : α → Traced β} {b : β} :
    (x >>= f).result = .ok b ↔ ∃ a, x.result = .ok a ∧ (f a).result = .ok b := by
  rw [result_bind, bind_eq_ok_iff]

/-- A computation followed by another one ends in a failure if and only if one of the two does. -/
theorem result_bind_eq_error_iff {α β : Type} {x : Traced α} {f : α → Traced β} {e : Failure} :
    (x >>= f).result = .error e ↔
      x.result = .error e ∨ ∃ a, x.result = .ok a ∧ (f a).result = .error e := by
  rw [result_bind, bind_eq_error_iff]

/-- A computation that tells nothing and has an answer is that answer. -/
theorem ofExcept_bind_ok {α β : Type} {r : Except Failure α} {a : α} (f : α → Traced β)
    (h : r = .ok a) : ofExcept r >>= f = f a := by
  subst h
  rfl

end Traced

end JavaHome
