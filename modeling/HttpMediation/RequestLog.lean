import HttpMediation.Config.Basic
import HttpMediation.Exchange
import HttpMediation.Field

/-!
# RequestLog — one line for each request

A line names the client, the method, the path and the parameters.  The parameters stand in the order
of their names; values that are sensitive are masked, and every part that the client chose is
neutralised, so that a line stays one line.

* `ParameterPolicy` : which values a line may show.
* `RequestLogger.line` : the line of an exchange.
* `RequestLogger.log` : a sink is given one record for each exchange.
-/

namespace HttpMediation

/-- Which parameter values a log line may show. -/
inductive ParameterPolicy
  /-- All but the anti-forgery token. -/
  | logAll
  /-- All but the anti-forgery token and the named ones. -/
  | obfuscate (names : TextSet)

/-- Writes log lines. -/
structure RequestLogger where
  mask : String
  maxValueLen : Nat
  sensitive : TextSet
  csrfParameter : String

namespace RequestLogger

/-- A logger for the settings. -/
def new (logging : LoggingConfig) (csrf : CsrfConfig) : RequestLogger :=
  ⟨logging.mask, logging.maxValueLen, logging.sensitiveParameters, csrf.parameterName⟩

/-- The policy of a request that names none. -/
def defaultPolicy (l : RequestLogger) : ParameterPolicy :=
  .obfuscate l.sensitive

/-- Whether the parameter's value is hidden. -/
def isMasked (l : RequestLogger) (policy : ParameterPolicy) (name : String) : Bool :=
  name == l.csrfParameter ||
    match policy with
    | .logAll => false
    | .obfuscate names => names.contains name

/-- What the line shows of a parameter. -/
def entry (l : RequestLogger) (policy : ParameterPolicy) (p : String × String) : String :=
  neutralize l.maxValueLen p.1 ++ "=" ++
    (if l.isMasked policy p.1 then l.mask else neutralize l.maxValueLen p.2)

/-- The parameters in the order of their names; equal names keep the order of the request. -/
def byName (params : List (String × String)) : List (String × String) :=
  params.mergeSort fun a b => a.1 ≤ b.1

/-- The log line of an exchange. -/
def line (l : RequestLogger) (policy : ParameterPolicy) (x : Exchange) : String :=
  neutralize l.maxValueLen x.request.remoteAddr ++ " " ++ x.request.method.name ++ " " ++
    neutralize l.maxValueLen (String.ofList (Request.pathOf x.request.url.toList)) ++ " [" ++
    ", ".intercalate ((byName x.request.parameters).map (l.entry policy)) ++ "]"

end RequestLogger

/-- What a sink is given for a request. -/
structure LogRecord where
  id : String
  line : Verified String
  deriving DecidableEq, Repr

/-- Writes the line of an exchange to a sink, behind the records that it holds. -/
def RequestLogger.log (l : RequestLogger) (policy : ParameterPolicy) (x : Exchange)
    (sink : List LogRecord) : List LogRecord :=
  sink ++ [⟨x.id, ⟨l.line policy x⟩⟩]

end HttpMediation
