import Outflow.Error.SystemCode
import Outflow.Text.Quoted

/-!
Failures of a connection, and the failures of a transport behind them. Either can stand inside the other, since a
connection may be the transport of another one.
-/

namespace Outflow

mutual

/-- A failure that a transport reports. -/
inductive IoError
  | simple (kind : ErrorKind)
  | worded (kind : ErrorKind) (text : String)
  | system (code : SystemCode)
  | wrapping (kind : ErrorKind) (error : Error)

/-- A failure of a write on a connection. -/
inductive Error
  | endOfStream
  | timeout
  | overloaded (buffered limit : Nat)
  | transport (cause : IoError)

end

def IoError.kind : IoError → ErrorKind
  | .simple kind => kind
  | .worded kind _ => kind
  | .system code => code.kind
  | .wrapping kind _ => kind

namespace Error

def kind : Error → ErrorKind
  | endOfStream => .unexpectedEof
  | timeout => .timedOut
  | overloaded _ _ => .wouldBlock
  | transport cause => cause.kind

def name : Error → String
  | endOfStream => "EndOfStream"
  | timeout => "Timeout"
  | overloaded _ _ => "Overloaded"
  | transport _ => "Transport"

/-- A late or short write is a failure of its own, whatever the transport says about it. -/
def ofIo (e : IoError) : Error :=
  match e.kind with
  | .timedOut => timeout
  | .unexpectedEof | .writeZero => endOfStream
  | _ => transport e

/-- A failure whose cause is not one of a transport. -/
def ofCause (text : String) : Error := transport (.worded .other text)

/-- A failure whose cause is another failure of a connection. -/
def ofError (e : Error) : Error := transport (.wrapping .other e)

def toIo (e : Error) : IoError := .wrapping e.kind e

end Error

mutual

def IoError.message : IoError → String
  | .simple kind => kind.text
  | .worded _ text => text
  | .system code => s!"{code.text} (os error {code.number})"
  | .wrapping _ error => error.message

def Error.message : Error → String
  | .endOfStream => "connection closed by peer during write"
  | .timeout => "write timed out"
  | .overloaded buffered limit => s!"write buffer overloaded: {buffered} bytes queued, limit is {limit}"
  | .transport cause => "write failed: " ++ cause.message

end

mutual

/-- The messages along the causes behind a failure. A wrapped failure is told by its wrapper already. -/
def IoError.sources : IoError → List String
  | .wrapping _ error => error.sources
  | _ => []

def Error.sources : Error → List String
  | .transport cause => cause.message :: cause.sources
  | _ => []

end

mutual

def IoError.debug : IoError → String
  | .simple kind => s!"Kind({kind.name})"
  | .worded kind text => s!"Custom \x7b kind: {kind.name}, error: {Text.quoted text} \x7d"
  | .system code =>
    s!"Os \x7b code: {code.number}, kind: {code.kind.name}, message: {Text.quoted code.text} \x7d"
  | .wrapping kind error => s!"Custom \x7b kind: {kind.name}, error: {error.debug} \x7d"

def Error.debug : Error → String
  | .endOfStream => "EndOfStream"
  | .timeout => "Timeout"
  | .overloaded buffered limit => s!"Overloaded \x7b buffered: {buffered}, limit: {limit} \x7d"
  | .transport cause => s!"Transport({cause.debug})"

end

/-- Why a connection is handed back to its producer. -/
inductive Event
  | writable
  | error (cause : Error)

def Event.isError : Event → Bool
  | .writable => false
  | .error _ => true

end Outflow
