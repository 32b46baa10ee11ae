import DecompileServer.Rpc.Lines
import DecompileServer.Session.Basic

/-!
# A conversation over a stream

The server reads one line after the other, passes over those that are blank and writes the replies
to the others. It stops at the end of the input, which shuts the session down, or at a line that is
not UTF-8 or over which it breaks down, which does not.
-/
namespace DecompileServer

open Rpc (Reply)

/-- Where a conversation stands. -/
structure Conversation where
  /-- The replies so far, in order. -/
  replies : List Reply := []
  /-- The session. -/
  session : Session := {}
  /-- The host. -/
  host : Host
  /-- The fault that ended it, if one did. -/
  fault : Option Utf8.Fault := none
  /-- Whether the server broke down. -/
  brokeDown : Bool := false

namespace Conversation

/-- What has been written. -/
def output (conversation : Conversation) : String :=
  String.join (conversation.replies.map Rpc.Lines.write)

/-- Goes on with a line. -/
def next (service : Service) (conversation : Conversation) (line : String) : Conversation :=
  if Text.isBlankText line then conversation
  else
    let turn := conversation.session.handleLine service line conversation.host
    { conversation with
      replies := conversation.replies ++ turn.reply.toList
      brokeDown := turn.brokeDown
      session := turn.session
      host := turn.host }

/-- Goes on until the input ends or is at fault. -/
def run (service : Service) (conversation : Conversation) (input : List UInt8) : Conversation :=
  match _found : Rpc.Lines.read input with
  | none => { conversation with session := conversation.session.shutdown }
  | some (.error fault, _) => { conversation with fault := some fault }
  | some (.ok line, further) =>
    let after := conversation.next service line
    if after.session.phase = .shuttingDown || after.brokeDown then after
    else run service after further
termination_by input.length
decreasing_by exact Rpc.Lines.length_lt_of_read _found

end Conversation

end DecompileServer
