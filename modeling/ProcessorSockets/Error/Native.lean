import ProcessorSockets.Error.System
import ProcessorSockets.Text.Quoted

namespace ProcessorSockets

inductive NativeError
  /-- Numbered by the operating system. -/
  | os (code : Int)
  | bare (kind : ErrorKind)
  | described (kind : ErrorKind) (text : String)
  deriving DecidableEq, Repr

namespace NativeError

def kind : NativeError → ErrorKind
  | .os code => Errno.kind code
  | .bare kind => kind
  | .described kind _ => kind

def errno? : NativeError → Option Int
  | .os code => some code
  | .bare _ => none
  | .described _ _ => none

def message : NativeError → String
  | .os code => s!"{Errno.text code} (os error {code})"
  | .bare kind => kind.text
  | .described _ text => text

def description : NativeError → String
  | .os code =>
    "Os \x7b code: " ++ toString code ++ ", kind: " ++ (Errno.kind code).name ++
      ", message: " ++ quoted (Errno.text code) ++ " \x7d"
  | .bare kind => "Kind(" ++ kind.name ++ ")"
  | .described kind text =>
    "Custom \x7b kind: " ++ kind.name ++ ", error: " ++ quoted text ++ " \x7d"

def isInterrupted (e : NativeError) : Bool := e.kind = .interrupted

end NativeError

end ProcessorSockets
