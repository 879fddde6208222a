import RouteScribe.Diagnostic
import RouteScribe.Example
import RouteScribe.Json.Reader
import RouteScribe.Schema.Resolve

/-!
# Results with diagnostics

Documenting a route reports diagnostics on the way to its result.  A computation
that fails keeps what it has reported before.
-/

namespace RouteScribe.Route

open RouteScribe.Json RouteScribe.Text

/-- A mistake in a comment that ends the documentation of a whole program. -/
inductive FatalError where
  | severalBodies (method path file : String)
  | severalRoutes (router file : String)
  deriving DecidableEq, Repr

def FatalError.message : FatalError → String
  | .severalBodies method path file =>
      "Too many @body tags for " ++ method.toUpper ++ " " ++ path ++ " in " ++ file
  | .severalRoutes router file =>
      "Too many @route tags for router '" ++ router ++ "' in " ++ file

/-- Why a file cannot be scanned to its end.  Only a `FatalError` is a mistake in
a comment; the others come from odd types and numbers. -/
inductive ScanError where
  | fatal (error : FatalError)
  /-- A status code has digits that denote no decimal number. -/
  | badNumber (text : String)
  | tooManyDigits (count : Nat)
  | type (error : Schema.ResolveError)
  | sample (error : Example.ExampleError)

/-- The report on a text that is no decimal number.  At most two hundred
characters of it are shown. -/
def badNumberMessage (text : String) : String :=
  "invalid literal for int() with base 10: " ++
    .ofList ((quotedChars text.toList).take 200)

def ScanError.message? : ScanError → Option String
  | .fatal error => some error.message
  | .badNumber text => some (badNumberMessage text)
  | .tooManyDigits count => some (tooManyDigitsMessage count)
  | .type _ | .sample _ => none

/-- A result, or an error, with the diagnostics reported on the way to it. -/
structure Reported (ε α : Type) where
  diagnostics : List Diagnostic
  result : Except ε α

namespace Reported

variable {ε α β : Type}

/-- A result without diagnostics. -/
def quiet (value : α) : Reported ε α :=
  ⟨[], .ok value⟩

/-- A failure without diagnostics. -/
def fail (error : ε) : Reported ε α :=
  ⟨[], .error error⟩

/-- Reports a diagnostic. -/
def report (diagnostic : Diagnostic) : Reported ε Unit :=
  ⟨[diagnostic], .ok ()⟩

/-- Goes on with a result; a failure ends the computation. -/
def andThen (first : Reported ε α) (next : α → Reported ε β) : Reported ε β :=
  match first.result with
  | .ok value =>
      let rest := next value
      ⟨first.diagnostics ++ rest.diagnostics, rest.result⟩
  | .error error => ⟨first.diagnostics, .error error⟩

instance : Monad (Reported ε) where
  pure := quiet
  bind := andThen

/-- A computation for each item, in order, up to the first failure. -/
def forEach (act : α → Reported ε β) : List α → Reported ε (List β)
  | [] => quiet []
  | item :: items => do
      let value ← act item
      let values ← forEach act items
      return value :: values

end Reported

end RouteScribe.Route
