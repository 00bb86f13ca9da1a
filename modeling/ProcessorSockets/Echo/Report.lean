import ProcessorSockets.Error
import ProcessorSockets.Text.Fill

namespace ProcessorSockets.Echo

structure Report where
  message : String
  code : Option String := none
  /-- From the nearest cause to the last. -/
  causes : List String := []
  help : Option String := none
  deriving DecidableEq, Repr

namespace Report

def ofError (e : SocketError) : Report where
  message := e.message
  code := some e.code
  causes := (e.source?.map NativeError.message).toList
  help := e.help?

def during (doing : String) (e : SocketError) : Report :=
  { ofError e with message := doing, causes := e.message :: (ofError e).causes }

def columns : Nat := 78

def block (mark further text : String) : List String :=
  match Text.fill (columns - mark.length) text.toList with
  | [] => [mark]
  | first :: rest => (mark ++ String.ofList first) :: rest.map (further ++ String.ofList ·)

def branches : List String → List String
  | [] => []
  | [last] => block "  ╰─▶ " "      " last
  | cause :: rest => block "  ├─▶ " "  │   " cause ++ branches rest

def lines (r : Report) : List String :=
  ("Error: " ++ r.code.getD "") :: "" :: block "  × " "  │ " r.message ++ branches r.causes ++
    (r.help.elim [] fun help => block "  help: " "        " help)

end Report

end ProcessorSockets.Echo
