import BrokerClient.Program

/-!
# Closing channels when things are torn down
-/

namespace BrokerClient.Channel

/-- Closes a channel; a failure is logged and not raised. Gives whether the channel was closed. -/
def closeQuietly {S : Signature} {σ : Type} (close : Program S σ Unit) (purpose : String) :
    Program S σ Bool :=
  (close.bind fun _ => .done true).rescue fun e => do
    .logFailure .closing s!"Failed to close {purpose} channel: {e.message}" e
      [("channel_kind", .str purpose), ("error_type", .str e.name)]
    return false

end BrokerClient.Channel
