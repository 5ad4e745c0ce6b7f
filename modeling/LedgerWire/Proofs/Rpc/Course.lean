import LedgerWire.Proofs.Rpc.Operation
import LedgerWire.Rpc.Traffic

/-!
# The course of one call

A call that performs an operation takes one number, sends one request that has this number, and
comes to an end when the HTTP library delivers a response or gives up. Until then the library
transmits nothing but the request itself, to the address of the client, and what it makes of the
responses to it. One move keeps a call on this course.
-/

namespace LedgerWire

namespace Traffic

/-! ### What has happened -/

/-- The number that was taken. -/
def Happening.id? : Happening → Option UInt64
  | numbered id => some id
  | _ => none

/-- The request that was sent. -/
def Happening.post? : Happening → Option Post
  | sent post => some post
  | _ => none

/-- What the library transmitted. -/
def Happening.transmission? : Happening → Option Transmission
  | transmitted transmission => some transmission
  | _ => none

/-- What came back to the library. -/
def Happening.heard? : Happening → Option Delivery
  | heard delivery => some delivery
  | _ => none

/-- What the library gave to the call. -/
def Happening.delivery? : Happening → Option Delivery
  | delivered delivery => some delivery
  | _ => none

/-- The numbers that were taken. -/
def numbers (history : List Happening) : List UInt64 := history.filterMap Happening.id?

/-- The requests that were sent. -/
def posts (history : List Happening) : List Post := history.filterMap Happening.post?

/-- All that the library transmitted. -/
def transmissions (history : List Happening) : List Transmission :=
  history.filterMap Happening.transmission?

/-- All that came back to the library. -/
def arrivals (history : List Happening) : List Delivery := history.filterMap Happening.heard?

/-- All that the library gave to the call. -/
def deliveries (history : List Happening) : List Delivery :=
  history.filterMap Happening.delivery?

/-! ### The moves of a call -/

section

variable {http : Http} {client later : Client} {progress next : Progress} {move : Move}
variable {happened : List Happening}

/-- The possible moves of a call, with what each leads to. -/
inductive Moves (http : Http) (client : Client) :
    Progress → Move → Client → Progress → List Happening → Prop
  | number (rest : UInt64 → Program Product) :
      Moves http client (.running (.number rest)) .advance
        { client with nextId := client.nextId + 1 } (.running (rest client.nextId))
        [.numbered client.nextId]
  | send (request : Request) (rest : Delivery → Program Product) :
      Moves http client (.running (.send request rest)) .advance client
        (.waiting (client.address request) [] rest) [.sent (client.address request)]
  | transmit {post : Post} (rest : Delivery → Program Product)
      (address : http.isUrl post.url = true) :
      Moves http client (.waiting post [] rest) .transmit client
        (.waiting post [post.transmission] rest) [.transmitted post.transmission]
  | hear {post : Post} {transmitted : List Transmission} {delivery : Delivery}
      (rest : Delivery → Program Product) (started : transmitted ≠ [])
      (verdict : http.verdict transmitted delivery = .deliver) :
      Moves http client (.waiting post transmitted rest) (.hear delivery) client
        (.running (rest delivery)) [.heard delivery, .delivered delivery]
  | follow {post : Post} {transmitted : List Transmission} {delivery : Delivery}
      {transmission : Transmission} (rest : Delivery → Program Product) (started : transmitted ≠ [])
      (verdict : http.verdict transmitted delivery = .follow transmission) :
      Moves http client (.waiting post transmitted rest) (.hear delivery) client
        (.waiting post (transmitted ++ [transmission]) rest)
        [.heard delivery, .transmitted transmission]
  | giveUp {post : Post} {transmitted : List Transmission} {delivery : Delivery}
      (rest : Delivery → Program Product) (started : transmitted ≠ [])
      (verdict : http.verdict transmitted delivery = .giveUp) :
      Moves http client (.waiting post transmitted rest) (.hear delivery) client
        (.running (rest .lost)) [.heard delivery, .delivered .lost]
  | lose (post : Post) (transmitted : List Transmission) (rest : Delivery → Program Product) :
      Moves http client (.waiting post transmitted rest) .lose client (.running (rest .lost))
        [.delivered .lost]

/-- A move that leads to something is one of these. -/
theorem Progress.moves_of_after
    (h : progress.after http client move = some (later, next, happened)) :
    Moves http client progress move later next happened := by
  cases progress with
  | running rest =>
    cases rest with
    | done product => cases move <;> cases h
    | number rest =>
      cases move with
      | advance =>
        cases h
        exact .number rest
      | transmit | hear | lose => cases h
    | send request rest =>
      cases move with
      | advance =>
        cases h
        exact .send request rest
      | transmit | hear | lose => cases h
  | waiting post transmitted rest =>
    cases move with
    | advance => cases transmitted <;> cases h
    | transmit =>
      cases transmitted with
      | nil =>
        by_cases haddress : http.isUrl post.url = true
        · rw [after, if_pos haddress] at h
          cases h
          exact .transmit rest haddress
        · rw [after, if_neg haddress] at h
          cases h
      | cons first others => cases h
    | hear delivery =>
      cases transmitted with
      | nil => cases h
      | cons first others =>
        have hstarted : first :: others ≠ [] := List.cons_ne_nil first others
        cases hverdict : http.verdict (first :: others) delivery with
        | deliver =>
          simp only [after, hverdict] at h
          cases h
          exact .hear rest hstarted hverdict
        | follow transmission =>
          simp only [after, hverdict] at h
          cases h
          exact .follow rest hstarted hverdict
        | giveUp =>
          simp only [after, hverdict] at h
          cases h
          exact .giveUp rest hstarted hverdict
    | lose =>
      cases transmitted <;> cases h <;> exact .lose _ _ rest

/-- A move takes the next number of the client, or no number. -/
theorem Moves.numbers_eq (h : Moves http client progress move later next happened) :
    numbers happened = [] ∧ later = client ∨
      numbers happened = [client.nextId] ∧
        later = { client with nextId := client.nextId + 1 } := by
  cases h with
  | number => exact .inr ⟨rfl, rfl⟩
  | send | transmit | hear | follow | giveUp | lose => exact .inl ⟨rfl, rfl⟩

end

/-! ### What is transmitted for one request -/

/-- What has been transmitted for a request, and what has happened in the meantime: it begins with
the request itself, if its address is one, and goes on only as the library finds. -/
inductive Transmits (http : Http) (post : Post) : List Transmission → List Happening → Prop
  | nothing : Transmits http post [] []
  | first (address : http.isUrl post.url = true) :
      Transmits http post [post.transmission] [.transmitted post.transmission]
  | follow {transmitted : List Transmission} {trace : List Happening} {delivery : Delivery}
      {transmission : Transmission} (earlier : Transmits http post transmitted trace)
      (started : transmitted ≠ [])
      (verdict : http.verdict transmitted delivery = .follow transmission) :
      Transmits http post (transmitted ++ [transmission])
        (trace ++ [.heard delivery, .transmitted transmission])

/-- Nothing has happened while nothing has been transmitted. -/
theorem Transmits.trace_eq_nil {http : Http} {post : Post} {transmitted : List Transmission}
    {trace : List Happening} (h : Transmits http post transmitted trace)
    (hnothing : transmitted = []) : trace = [] := by
  cases h with
  | nothing => rfl
  | first => cases hnothing
  | follow => exact absurd hnothing (List.append_ne_nil_of_right_ne_nil _ (List.cons_ne_nil _ _))

/-- What has happened to a request for which the library has delivered something. -/
inductive Delivers (http : Http) (post : Post) : List Happening → Delivery → Prop
  | heard {transmitted : List Transmission} {trace : List Happening} {delivery : Delivery}
      (earlier : Transmits http post transmitted trace) (started : transmitted ≠ [])
      (verdict : http.verdict transmitted delivery = .deliver) :
      Delivers http post (trace ++ [.heard delivery, .delivered delivery]) delivery
  | gaveUp {transmitted : List Transmission} {trace : List Happening} {delivery : Delivery}
      (earlier : Transmits http post transmitted trace) (started : transmitted ≠ [])
      (verdict : http.verdict transmitted delivery = .giveUp) :
      Delivers http post (trace ++ [.heard delivery, .delivered .lost]) .lost
  | lost {transmitted : List Transmission} {trace : List Happening}
      (earlier : Transmits http post transmitted trace) :
      Delivers http post (trace ++ [.delivered .lost]) .lost

section

variable {http : Http} {post : Post} {transmitted : List Transmission} {trace : List Happening}
variable {delivery : Delivery}

/-- What the library does for a request, whatever comes back: no number is taken and nothing else
is sent. The request is transmitted first, to its address, if it is one. What is transmitted after
it answers redirects, if the library transmits nothing on its own account. A response that is
delivered is the last one that came back for what was transmitted. -/
structure Serves (http : Http) (post : Post) (trace : List Happening) : Prop where
  numbers_eq : numbers trace = []
  posts_eq : posts trace = []
  transmitted : transmissions trace = [] ∨
    http.isUrl post.url = true ∧ ∃ others, transmissions trace = post.transmission :: others
  redirected : http.FollowsRedirects →
    (transmissions trace).length ≤ (arrivals trace).countP Delivery.isRedirect + 1
  received : ∀ response, .response response ∈ deliveries trace →
    transmissions trace ≠ [] ∧ (arrivals trace).getLast? = some (.response response)

/-- A request is still served when more has happened, if what was transmitted in the meantime
answers redirects and what was delivered is the last response. -/
theorem Serves.append {more : List Happening} (h : Serves http post trace)
    (hnumbers : numbers more = []) (hposts : posts more = [])
    (hstarted : transmissions more ≠ [] → transmissions trace ≠ [])
    (hredirected : http.FollowsRedirects →
      (transmissions more).length ≤ (arrivals more).countP Delivery.isRedirect)
    (hreceived : ∀ response, .response response ∈ deliveries (trace ++ more) →
      transmissions trace ≠ [] ∧ (arrivals more).getLast? = some (.response response)) :
    Serves http post (trace ++ more) := by
  have htransmissions : transmissions (trace ++ more) = transmissions trace ++ transmissions more :=
    List.filterMap_append
  have harrivals : arrivals (trace ++ more) = arrivals trace ++ arrivals more :=
    List.filterMap_append
  refine ⟨?_, ?_, ?_, ?_, ?_⟩
  · rw [numbers, List.filterMap_append, ← numbers, h.numbers_eq]
    exact hnumbers
  · rw [posts, List.filterMap_append, ← posts, h.posts_eq]
    exact hposts
  · rcases h.transmitted with hnone | ⟨haddress, others, hothers⟩
    · have hmore : transmissions more = [] := by
        by_contra hmore
        exact hstarted hmore hnone
      exact .inl (by rw [htransmissions, hnone, hmore]; rfl)
    · exact .inr ⟨haddress, others ++ transmissions more, by rw [htransmissions, hothers]; rfl⟩
  · intro hfollows
    have hbefore := h.redirected hfollows
    have hafter := hredirected hfollows
    rw [htransmissions, harrivals, List.length_append, List.countP_append]
    omega
  · intro response hresponse
    obtain ⟨hsent, hlast⟩ := hreceived response hresponse
    rw [htransmissions, harrivals, List.getLast?_append, hlast]
    exact ⟨List.append_ne_nil_of_left_ne_nil hsent _, rfl⟩

end

/-! ### The course -/

/-- How far a use of a client has come, with what has happened to it. -/
inductive Course (http : Http) (client : Client) : Use → Progress → List Happening → Prop
  | begun (use : Use) : Course http client use (.running use.program) []
  | built (method : String) (params : Json) (id : UInt64) :
      Course http client (.build method params) (.running (.done (.built ⟨id, method, params⟩)))
        [.numbered id]
  | numbered {operation : Operation} {method : String} {params : Json}
      (asks : operation.Asks method params) (id : UInt64) :
      Course http client (.perform operation)
        (.running (.send ⟨id, method, params⟩ fun delivery =>
          .done (.answered (delivery.reply.answer ⟨method, params, operation.reader⟩))))
        [.numbered id]
  | waiting {operation : Operation} {method : String} {params : Json} {id : UInt64}
      {transmitted : List Transmission} {trace : List Happening}
      (asks : operation.Asks method params)
      (transmits : Transmits http (client.address ⟨id, method, params⟩) transmitted trace) :
      Course http client (.perform operation)
        (.waiting (client.address ⟨id, method, params⟩) transmitted fun delivery =>
          .done (.answered (delivery.reply.answer ⟨method, params, operation.reader⟩)))
        (.numbered id :: .sent (client.address ⟨id, method, params⟩) :: trace)
  | ended {operation : Operation} {method : String} {params : Json} {id : UInt64}
      {trace : List Happening} {delivery : Delivery} (asks : operation.Asks method params)
      (delivers : Delivers http (client.address ⟨id, method, params⟩) trace delivery) :
      Course http client (.perform operation)
        (.running (.done (.answered
          (delivery.reply.answer ⟨method, params, operation.reader⟩))))
        (.numbered id :: .sent (client.address ⟨id, method, params⟩) :: trace)

/-- The program of an operation that asks something: a number, a request, the answer. -/
theorem program_of_asks {operation : Operation} {method : String} {params : Json}
    (h : operation.Asks method params) :
    (Use.perform operation).program = .number fun id => .send ⟨id, method, params⟩ fun delivery =>
      .done (.answered (delivery.reply.answer ⟨method, params, operation.reader⟩)) := by
  simp only [Use.program, Operation.program, Operation.query_of_asks h]
  rfl

/-- The program of an operation whose transaction has no bytes is done with the failure. -/
theorem program_of_not_encodes {operation : Operation} (h : ¬operation.Encodes) :
    ∃ error, (Use.perform operation).program = .done (.answered (.error (.codec error))) := by
  obtain ⟨error, hquery⟩ := Operation.query_of_not_encodes h
  refine ⟨error, ?_⟩
  simp only [Use.program, Operation.program, hquery]
  rfl

section

variable {http : Http} {client current later : Client} {use : Use} {progress next : Progress}
variable {move : Move} {history happened : List Happening}

/-- One move keeps a call on its course. -/
theorem Course.moves (h : Course http client use progress history)
    (hclient : current.address = client.address)
    (hmoves : Moves http current progress move later next happened) :
    Course http client use next (history ++ happened) := by
  cases h with
  | begun use =>
    cases use with
    | build method params =>
      cases hmoves with
      | number => exact .built method params current.nextId
    | perform operation =>
      by_cases hencodes : operation.Encodes
      · obtain ⟨method, params, hasks⟩ := Operation.exists_asks_iff.mpr hencodes
        rw [program_of_asks hasks] at hmoves
        cases hmoves with
        | number => exact .numbered hasks current.nextId
      · obtain ⟨error, hprogram⟩ := program_of_not_encodes hencodes
        rw [hprogram] at hmoves
        cases hmoves
  | built => cases hmoves
  | numbered asks id =>
    cases hmoves with
    | send =>
      rw [hclient]
      exact .waiting asks .nothing
  | waiting asks transmits =>
    cases hmoves with
    | transmit rest address =>
      rw [transmits.trace_eq_nil rfl]
      exact .waiting asks (.first address)
    | hear rest started verdict => exact .ended asks (.heard transmits started verdict)
    | follow rest started verdict => exact .waiting asks (.follow transmits started verdict)
    | giveUp rest started verdict => exact .ended asks (.gaveUp transmits started verdict)
    | lose => exact .ended asks (.lost transmits)
  | ended => cases hmoves

/-- A call of an operation whose transaction has no bytes ends at once, and nothing happens. -/
theorem Course.refused {operation : Operation}
    (h : Course http client (.perform operation) progress history)
    (hencodes : ¬operation.Encodes) :
    history = [] ∧ ∃ error, progress = .running (.done (.answered (.error (.codec error)))) := by
  cases h with
  | begun =>
    obtain ⟨error, hprogram⟩ := program_of_not_encodes hencodes
    exact ⟨rfl, error, congrArg Progress.running hprogram⟩
  | numbered asks | waiting asks | ended asks =>
    exact absurd (Operation.exists_asks_iff.mp ⟨_, _, asks⟩) hencodes

end

end Traffic

end LedgerWire
