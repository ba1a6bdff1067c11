import WireSchema.Error.Cause

/-!
# Error/Located — errors and where they were found

An `Error` is a cause together with what is known of its place: the path of a file, and a line.  The
empty path stands for no path.  `withLocation` says where the error is; `locatedAt` fills in only
what is not yet known, so the innermost place that was given stays.
-/

namespace WireSchema

/-- **An error with what is known of its place.** -/
structure Error where
  cause : Cause
  path? : Option String
  line? : Option Nat
  deriving DecidableEq

namespace Error

/-- An error whose place is not known. -/
def ofCause (cause : Cause) : Error := ⟨cause, none, none⟩

/-- The path, unless it is empty. -/
def nonempty? (path : String) : Option String := if path = "" then none else some path

/-- **The error in that place**, wherever it was before. -/
def withLocation (e : Error) (path : String) (line? : Option Nat) : Error :=
  ⟨e.cause, nonempty? path, line?⟩

/-- **The error in that place as far as its own is not known.** -/
def locatedAt (e : Error) (path? : Option String) (line? : Option Nat) : Error :=
  ⟨e.cause, e.path? <|> path?.bind nonempty?, e.line? <|> line?⟩

@[simp] theorem cause_withLocation (e : Error) (path : String) (line? : Option Nat) :
    (e.withLocation path line?).cause = e.cause := rfl

@[simp] theorem cause_locatedAt (e : Error) (path? : Option String) (line? : Option Nat) :
    (e.locatedAt path? line?).cause = e.cause := rfl

/-- The kind of the error. -/
def kind (e : Error) : ErrorKind := e.cause.kind

/-- Whether the fault is not the user's. -/
def isInternal (e : Error) : Bool := e.kind = .internal

/-- **The error as it is shown**: the message behind the path, and the line if there is a path. -/
def text (e : Error) : String :=
  match e.path?, e.line? with
  | some path, some line => path ++ ":" ++ toString line ++ ": " ++ e.cause.message
  | some path, none => path ++ ": " ++ e.cause.message
  | none, _ => e.cause.message

end Error
end WireSchema
