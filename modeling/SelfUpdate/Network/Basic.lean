import SelfUpdate.Disk.Action
import SelfUpdate.Network.Error

/-!
# Networks

What the updater asks of the network and what it may get: a text, or a stream that delivers chunks
one after another. An answer may break off, may bring the asking job down, and may come while other
programs change the disk.
-/

namespace SelfUpdate

open Network

inductive Request where
  | text (url : String)
  | stream (url : String)
  deriving DecidableEq, Repr

def Request.url : Request → String
  | text url => url
  | stream url => url

inductive StreamEvent where
  | chunk (bytes : Bytes)
  | failure (error : Network.Error)
  | crash
  | interference (actions : List Disk.Action)
  deriving Repr

/-- What a stream delivers to the one who reads it, and the error that ends it. -/
def StreamEvent.delivered : List StreamEvent → Bytes × Option Network.Error
  | [] => ([], none)
  | chunk bytes :: rest => (bytes ++ (delivered rest).1, (delivered rest).2)
  | failure error :: _ => ([], some error)
  | crash :: _ => ([], none)
  | interference _ :: rest => delivered rest

inductive TextReply where
  | body (text : String)
  | failure (error : Network.Error)
  | crash
  deriving Repr

inductive StreamReply where
  | opened (length : Option Nat) (events : List StreamEvent)
  | failure (error : Network.Error)
  | crash
  deriving Repr

/-- A reply, and what others do to the disk until it comes. -/
structure Answer (ρ : Type) where
  interference : List Disk.Action
  reply : ρ

/-- Answers depend on the address and on all earlier requests, the oldest first. -/
structure Network where
  text : List Request → String → Answer TextReply
  stream : List Request → String → Answer StreamReply

end SelfUpdate
