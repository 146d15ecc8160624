import Triage.Row

/-!
Sinks: what takes the rows of a scan. A sink has a state, and a write or a flush may fail.
-/

namespace Triage

inductive SinkError
  | io (reason : String)
  | serialization (reason : String)
deriving DecidableEq, Repr

def SinkError.message : SinkError → String
  | io reason => "IO error: " ++ reason
  | serialization reason => "Serialization error: " ++ reason

class Sink (σ : Type) where
  write : Rows → σ → Except SinkError Unit × σ
  flush : σ → Except SinkError Unit × σ

end Triage
