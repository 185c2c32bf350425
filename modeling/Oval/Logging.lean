import Oval.Config

/-! # The log

A process has one log, which is installed once; installing it again fails.
-/
namespace Oval

inductive LogFormat
  | json
  | pretty
  deriving DecidableEq, Repr

namespace LogFormat

def ofText? (s : String) : Option LogFormat :=
  if s = "json" then some json else if s = "pretty" then some pretty else none

def title : LogFormat → String
  | json => "JSON"
  | pretty => "pretty"

end LogFormat

namespace Logging

def unknownFormat (s : String) : Failure :=
  .logging ("unknown log format '" ++ s ++ "', expected 'json' or 'pretty'")

def alreadyInstalled (format : LogFormat) : Failure :=
  .logging ("failed to initialize " ++ format.title ++
    " tracing subscriber: a global default trace dispatcher has already been set")

/-- Installs the log in the configured format, unless there is one already. -/
def install (isInstalled : Bool) (g : General) : Except Failure LogFormat :=
  match LogFormat.ofText? g.logFormat with
  | none => .error (unknownFormat g.logFormat)
  | some format => if isInstalled then .error (alreadyInstalled format) else .ok format

end Logging
end Oval
