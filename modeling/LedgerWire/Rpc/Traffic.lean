import LedgerWire.Rpc.Client

/-!
# Calls that are under way together

Several uses of one client may be under way together, each as far as its program has come; the
steps of one are taken between those of the others. A call sends a request through an HTTP library,
which takes it from there and gives back what the call waits for. The library is a parameter here:
it may find that the address is none, transmits the request otherwise, may follow what comes back
to another place, and may give up at any time. What happens to the calls is logged as it happens.
-/

namespace LedgerWire

/-! ### The HTTP library -/

/-- How something is asked over HTTP. -/
inductive Verb where
  | get
  | post
  deriving DecidableEq

/-- What the library transmits. -/
structure Transmission where
  verb : Verb
  url : String
  body : Option Json
  deriving DecidableEq

/-- A request as it is transmitted. -/
def Post.transmission (post : Post) : Transmission := ⟨.post, post.url, some post.request.json⟩

/-- What the library makes of what has come back. -/
inductive Http.Verdict where
  /-- This is what was waited for. -/
  | deliver
  /-- Something else is transmitted first. -/
  | follow (next : Transmission)
  | giveUp
  deriving DecidableEq

/-- The HTTP library under a client: which texts it takes for addresses, and what it makes of what
has come back for the last of all that it has transmitted for one request. -/
structure Http where
  isUrl : String → Bool
  verdict : List Transmission → Delivery → Http.Verdict

/-- A response has a status that sends on, and names the place. -/
def Delivery.isRedirect : Delivery → Bool
  | .lost => false
  | .response received =>
    [301, 302, 303, 307, 308].contains received.status && received.location.isSome

/-- The library transmits something else only when a response sends it on. -/
def Http.FollowsRedirects (http : Http) : Prop :=
  ∀ transmitted delivery next, http.verdict transmitted delivery = .follow next →
    delivery.isRedirect = true

/-! ### Calls -/

/-- What a client is used for: to build a request, or to perform an operation. -/
inductive Use where
  | build (method : String) (params : Json)
  | perform (operation : Operation)
  deriving DecidableEq

/-- What comes of a use. -/
inductive Product where
  | built (request : Request)
  | answered (result : Except ClientError Answer)

/-- What a use does. -/
def Use.program : Use → Program Product
  | build method params => do return .built (← .request method params)
  | perform operation => do return .answered (← operation.program)

namespace Traffic

/-- How far a call has come: it goes on with a program, or it waits for the library, which has
transmitted something for it. -/
inductive Progress where
  | running (rest : Program Product)
  | waiting (post : Post) (transmitted : List Transmission) (next : Delivery → Program Product)

/-- What happens to a call. -/
inductive Happening where
  | numbered (id : UInt64)
  | sent (post : Post)
  | transmitted (transmission : Transmission)
  | heard (delivery : Delivery)
  | delivered (delivery : Delivery)
  deriving DecidableEq

/-- A step of a call, or of the library for it. -/
inductive Move where
  /-- The program goes on. -/
  | advance
  /-- The library transmits the request. -/
  | transmit
  /-- Something comes back for what was transmitted last. -/
  | hear (delivery : Delivery)
  /-- The library gives up. -/
  | lose
  deriving DecidableEq

/-- What a move leads to, when it is possible: the client, how far the call has come, and what has
happened to it. -/
def Progress.after (http : Http) (client : Client) :
    Progress → Move → Option (Client × Progress × List Happening)
  | .running (.number next), .advance =>
    some ({ client with nextId := client.nextId + 1 }, .running (next client.nextId),
      [.numbered client.nextId])
  | .running (.send request next), .advance =>
    some (client, .waiting (client.address request) [] next, [.sent (client.address request)])
  | .waiting post [] next, .transmit =>
    if http.isUrl post.url then
      some (client, .waiting post [post.transmission] next, [.transmitted post.transmission])
    else none
  | .waiting post (first :: others) next, .hear delivery =>
    match http.verdict (first :: others) delivery with
    | .deliver => some (client, .running (next delivery), [.heard delivery, .delivered delivery])
    | .follow transmission =>
      some (client, .waiting post (first :: others ++ [transmission]) next,
        [.heard delivery, .transmitted transmission])
    | .giveUp => some (client, .running (next .lost), [.heard delivery, .delivered .lost])
  | .waiting _ _ next, .lose => some (client, .running (next .lost), [.delivered .lost])
  | _, _ => none

/-- A use of a client that has begun. -/
structure Call where
  use : Use
  progress : Progress

/-- A use begins, or a call, known by its position, makes a move. -/
inductive Event where
  | begin (use : Use)
  | move (index : Nat) (move : Move)
  deriving DecidableEq

/-- The use that begins with an event, if one does. -/
def Event.use? : Event → Option Use
  | begin use => some use
  | move _ _ => none

end Traffic

/-- A client, its calls in the order in which they began, and what has happened to which of them,
in the order in which it happened. -/
structure Traffic where
  client : Client
  calls : List Traffic.Call
  log : List (Nat × Traffic.Happening)

namespace Traffic

/-- The traffic after an event, when it is possible. -/
def step (http : Http) (traffic : Traffic) : Event → Option Traffic
  | .begin use =>
    some { traffic with calls := traffic.calls ++ [⟨use, .running use.program⟩] }
  | .move index move => do
    let call ← traffic.calls[index]?
    let (client, progress, happened) ← call.progress.after http traffic.client move
    return {
      client
      calls := traffic.calls.set index { call with progress }
      log := traffic.log ++ happened.map fun happening => (index, happening) }

/-- The traffic after some events, if each of them is possible. -/
def run (http : Http) (traffic : Traffic) : List Event → Option Traffic
  | [] => some traffic
  | event :: rest => (traffic.step http event).bind fun next => next.run http rest

end Traffic

end LedgerWire
