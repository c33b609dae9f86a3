import SelfUpdate.Network.Address
import SelfUpdate.Network.Basic

/-!
# The HTTP client

The client asks a server and makes answers of what comes back. A status outside the range of success
is an error that quotes the beginning of the body.
-/

namespace SelfUpdate.Network

/-- What comes back for a request. -/
inductive Exchange where
  | hangUp
  /-- A response; its body may break off. -/
  | response (status : Nat) (length : Option Nat) (body : Bytes) (complete : Bool)
  deriving DecidableEq, Repr

/-- A server answers a request after others have changed the disk. -/
abbrev Server := Request → List Disk.Action × Exchange

/-- The server of a machine without a connection. -/
def Server.unreachable : Server := fun _ => ([], .hangUp)

namespace Client

def snippetLength : Nat := 160

/-- The beginning of a body, as the error message shows it. -/
def snippet (body : String) : String :=
  match body.toList.take snippetLength with
  | [] => ""
  | beginning => ": " ++ String.ofList beginning

/-- What keeps the client from asking for an address, or the address in its normal form. -/
def target (url : String) : Except Error String :=
  match Address.parse? url with
  | none => .error (.request url "builder error")
  | some address =>
    if address.isWeb then .ok address.text
    else .error (.request url ("builder error for url (" ++ address.text ++ ")"))

def isSuccess (status : Nat) : Bool := 200 ≤ status && status < 300

/-- The error that a response is, if it is one. -/
def statusError? (url : String) (status : Nat) (body : Bytes) (complete : Bool) : Option Error :=
  if isSuccess status then none
  else some (.status url status (if complete then snippet (Text.decodeLeniently body) else ""))

def sendingError (url target : String) : Error :=
  .request url ("error sending request for url (" ++ target ++ ")")

def textReply (url target : String) : Exchange → TextReply
  | .hangUp => .failure (sendingError url target)
  | .response status _ body complete =>
    match statusError? url status body complete with
    | some error => .failure error
    | none =>
      if complete then .body (Text.decodeLeniently body)
      else .failure (.body url ("error decoding response body for url (" ++ target ++ ")"))

def streamReply (url target : String) : Exchange → StreamReply
  | .hangUp => .failure (sendingError url target)
  | .response status length body complete =>
    match statusError? url status body complete with
    | some error => .failure error
    | none =>
      let failure := if complete then [] else [.failure (.body url "error decoding response body")]
      .opened length (.chunk body :: failure)

def textAnswer (server : Server) (url : String) : Answer TextReply :=
  match target url with
  | .error error => ⟨[], .failure error⟩
  | .ok target =>
    let (actions, exchange) := server (.text url)
    ⟨actions, textReply url target exchange⟩

def streamAnswer (server : Server) (url : String) : Answer StreamReply :=
  match target url with
  | .error error => ⟨[], .failure error⟩
  | .ok target =>
    let (actions, exchange) := server (.stream url)
    ⟨actions, streamReply url target exchange⟩

/-- The network in which a server answers all requests. -/
def network (server : Server) : Network :=
  ⟨fun _ url => textAnswer server url, fun _ url => streamAnswer server url⟩

end Client

end SelfUpdate.Network
