import HouseStyle.Json.Reader
import HouseStyle.Server.Frame
import HouseStyle.Server.Message
import HouseStyle.Word

/-!
# Exchanges with the language server

Calls carry an identifier and are replied to under it; notifications carry none and get no reply. What the server
publishes meanwhile goes out before the reply. A call that asks the server to exit ends the exchange, as does a message
that cannot be read.
-/

namespace HouseStyle.Server.Exchange

/-- The identifier of a message: of a call, it is a natural number or a text. A message with another one is
unreadable. -/
def identifier? (message : Json) : Option (Option Json) :=
  match message.get "id" with
  | .null => some none
  | .string t => some (some (.string t))
  | .number m e => if e = 0 && 0 ≤ m && m < wordCount then some (some (.number m e)) else none
  | _ => none

/-- The codes of errors. -/
def requestRefused : Int := -32600

/-- The code of an error for a method that the server does not have. -/
def methodMissing : Int := -32601

/-- The code of an error for parameters that cannot be read. -/
def paramsUnreadable : Int := -32602

/-- A message with a version mark. -/
def marked (members : List (String × Json)) : Json := Message.obj (("jsonrpc", "2.0") :: members)

/-- The error that a reply carries. -/
def errorMember (code : Int) (message : Text) : String × Json :=
  ("error", Message.obj [("code", .int code), ("message", .string message)])

/-- What a reply carries, to a call of a method with or without parameters. -/
def replyMember (method : Text) (withParams : Bool) : Message.Reply → String × Json
  | .result j => ("result", j)
  | .unknownMethod => errorMember methodMissing ("method not supported: " ++ method)
  | .invalidParams =>
    errorMember paramsUnreadable (if withParams then "invalid parameters" else "unexpected end of JSON input")
  | .failed message => errorMember requestRefused message

/-- The message that publishes problems. -/
def notice (p : Publication) : Json :=
  marked [("method", .string Message.publishMethod), ("params", Message.ofPublication p)]

/-- What a session does with a message: the session after it, unless the exchange ends, and the messages it sends. -/
def take (s : Session) (message : Json) : Option Session × List Json :=
  match identifier? message, message.get "method" with
  | none, _ => (none, [])
  | some id, .string method =>
    if method == Text.ofString "exit" then (none, [])
    else
      let params := message.get? "params"
      let (s, reply, published) := Message.dispatch s method params
      let replies := id.toList.map fun id => marked [("id", id), replyMember method params.isSome reply]
      (some s, published.map notice ++ replies)
  | some _, _ => (some s, [])

/-- The messages that a session sends in answer to a list of messages. -/
def run (s : Session) : List Text → List Json
  | [] => []
  | body :: rest =>
    match Json.parse? body with
    | none => []
    | some message =>
      match take s message with
      | (some s, sent) => sent ++ run s rest
      | (none, sent) => sent

/-- What a session writes in answer to what it reads, in frames. -/
def converse (s : Session) (input : Text) : Text :=
  (run s (Frame.decode input)).flatMap fun j => Frame.encode j.compact

end HouseStyle.Server.Exchange
