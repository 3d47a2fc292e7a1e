import EventRetention.Log.Call

/-!
The stream that calls write to, line by line. A call that raises something and a
line that is lost leave it as it is.
-/

namespace EventRetention.Log.Setup

def line? (setup : Setup) (json : Bool) (moment : Moment) (call : Call) : Option String :=
  (setup.emit moment call).toOption.join.bind (Line.text? json moment)

def run (setup : Setup) (json : Bool) (stream : List String) :
    List (Moment × Call) → List (Except CallFault Unit) × List String
  | [] => ([], stream)
  | (moment, call) :: rest =>
      let raised := (setup.emit moment call).map fun _ => ()
      let (answers, stream) := setup.run json (stream ++ (setup.line? json moment call).toList) rest
      (raised :: answers, stream)

end EventRetention.Log.Setup
