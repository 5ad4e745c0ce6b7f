import LedgerWire.Proofs.Rpc.Course
import LedgerWire.Proofs.Text.Decimal

/-!
# Requests of calls that are under way together

However the calls of a client overlap, the numbers are taken from zero on, one after the other, and
each call keeps to its own course: the steps of the others leave what has happened to it as it is.
This is an invariant of the traffic: one event keeps it, so every run does.
-/

namespace LedgerWire

namespace Traffic

/-! ### The log -/

/-- What has happened to the call at a position, in order. -/
def history (traffic : Traffic) (index : Nat) : List Happening :=
  (traffic.log.filter fun entry => entry.1 = index).map Prod.snd

/-- The numbers that were taken, with the positions of the calls that took them, in order. -/
def taken (traffic : Traffic) : List (Nat × UInt64) :=
  traffic.log.filterMap fun entry => entry.2.id?.map (entry.1, ·)

/-- The numbers that were taken, in the order in which they were taken. -/
def ids (traffic : Traffic) : List UInt64 := traffic.taken.map Prod.snd

section

variable {http : Http} {client : Client} {uses : List Use} {traffic next : Traffic}

/-- When something happens to one call, its history grows. -/
theorem history_log {traffic : Traffic} {happened : List Happening} {index : Nat}
    (hlog : next.log = traffic.log ++ happened.map fun happening => (index, happening)) :
    next.history index = traffic.history index ++ happened := by
  have hall : (happened.map fun happening => (index, happening)).filter
      (fun entry => entry.1 = index) = happened.map fun happening => (index, happening) := by
    rw [List.filter_eq_self]
    intro entry hentry
    obtain ⟨_, -, rfl⟩ := List.mem_map.mp hentry
    exact decide_eq_true rfl
  rw [history, hlog, List.filter_append, List.map_append, hall, List.map_map, ← history]
  exact congrArg _ (List.map_id happened)

/-- The other calls keep their histories. -/
theorem history_log_of_ne {traffic : Traffic} {happened : List Happening} {index other : Nat}
    (hlog : next.log = traffic.log ++ happened.map fun happening => (index, happening))
    (hother : other ≠ index) : next.history other = traffic.history other := by
  have hnone : (happened.map fun happening => (index, happening)).filter
      (fun entry => entry.1 = other) = [] := by
    rw [List.filter_eq_nil_iff]
    intro entry hentry
    obtain ⟨_, -, rfl⟩ := List.mem_map.mp hentry
    simpa using hother.symm
  rw [history, hlog, List.filter_append, hnone, List.append_nil, ← history]

/-- The numbers that are taken when something happens to one call come last. -/
theorem ids_log {traffic : Traffic} {happened : List Happening} {index : Nat}
    (hlog : next.log = traffic.log ++ happened.map fun happening => (index, happening)) :
    next.ids = traffic.ids ++ numbers happened := by
  have hnew : ((happened.map fun happening => (index, happening)).filterMap
      fun entry => entry.2.id?.map (entry.1, ·)).map Prod.snd = numbers happened := by
    rw [List.filterMap_map, List.map_filterMap]
    unfold numbers
    congr 1
    funext happening
    cases hid : happening.id? <;> simp [hid]
  rw [ids, taken, hlog, List.filterMap_append, List.map_append, hnew, ← taken, ← ids]

/-- The calls are those of the uses that began, each on its course. The numbers that were taken go
from zero on, and the client goes on with the next one. -/
structure Orderly (http : Http) (client : Client) (uses : List Use) (traffic : Traffic) :
    Prop where
  uses_eq : traffic.calls.map Call.use = uses
  client_eq : traffic.client = { client with nextId := UInt64.ofNat traffic.ids.length }
  ids_eq : traffic.ids = (List.range traffic.ids.length).map UInt64.ofNat
  course : ∀ index call, traffic.calls[index]? = some call →
    Course http client call.use call.progress (traffic.history index)
  known : ∀ entry ∈ traffic.log, entry.1 < traffic.calls.length

/-- A use that begins is a further call, to which nothing has happened. -/
theorem Orderly.begin (h : Orderly http client uses traffic) (use : Use) :
    Orderly http client (uses ++ [use])
      { traffic with calls := traffic.calls ++ [⟨use, .running use.program⟩] } where
  uses_eq := by
    rw [List.map_append, h.uses_eq]
    rfl
  client_eq := h.client_eq
  ids_eq := h.ids_eq
  course := by
    intro index call hcall
    rw [List.getElem?_append] at hcall
    split at hcall
    next => exact h.course index call hcall
    next hold =>
      rw [List.getElem?_singleton] at hcall
      split at hcall
      next hlast =>
        cases hcall
        have hnothing : traffic.history index = [] := by
          rw [history, List.map_eq_nil_iff, List.filter_eq_nil_iff]
          intro entry hentry
          have hknown := h.known entry hentry
          rw [decide_eq_true_eq]
          omega
        show Course http client use (.running use.program) (traffic.history index)
        rw [hnothing]
        exact .begun use
      next => cases hcall
  known := by
    intro entry hentry
    have hold := h.known entry hentry
    rw [List.length_append]
    omega

/-- A move of one call keeps the order. -/
theorem Orderly.move (h : Orderly http client uses traffic) {index : Nat} {call : Call}
    {move : Move} {later : Client} {progress : Progress} {happened : List Happening}
    (hcall : traffic.calls[index]? = some call)
    (hmoves : Moves http traffic.client call.progress move later progress happened) :
    Orderly http client uses {
      client := later
      calls := traffic.calls.set index { call with progress }
      log := traffic.log ++ happened.map fun happening => (index, happening) } where
  uses_eq := by
    obtain ⟨hindex, rfl⟩ := List.getElem?_eq_some_iff.mp hcall
    rw [← h.uses_eq, List.map_set]
    show (traffic.calls.map Call.use).set index (Call.use traffic.calls[index]) = _
    rw [← List.map_set, List.set_getElem_self hindex]
  client_eq := by
    rw [ids_log rfl]
    rcases hmoves.numbers_eq with ⟨hnumbers, rfl⟩ | ⟨hnumbers, rfl⟩
    · rw [hnumbers, List.append_nil]
      exact h.client_eq
    · rw [hnumbers, List.length_append, List.length_singleton, UInt64.ofNat_add, h.client_eq]
      rfl
  ids_eq := by
    rw [ids_log rfl]
    rcases hmoves.numbers_eq with ⟨hnumbers, -⟩ | ⟨hnumbers, -⟩
    · rw [hnumbers, List.append_nil]
      exact h.ids_eq
    · rw [hnumbers, List.length_append, List.length_singleton, List.range_succ, List.map_append,
        ← h.ids_eq, h.client_eq]
      rfl
  course := by
    have haddress : traffic.client.address = client.address := by
      rw [h.client_eq]
      rfl
    intro position other hother
    by_cases hposition : position = index
    · subst hposition
      rw [List.getElem?_set_self (List.getElem?_eq_some_iff.mp hcall).1] at hother
      cases hother
      rw [history_log rfl]
      exact (h.course position call hcall).moves haddress hmoves
    · rw [List.getElem?_set_ne (Ne.symm hposition)] at hother
      rw [history_log_of_ne rfl hposition]
      exact h.course position other hother
  known := by
    intro entry hentry
    rw [List.length_set]
    rcases List.mem_append.mp hentry with hold | hnew
    · exact h.known entry hold
    · obtain ⟨_, -, rfl⟩ := List.mem_map.mp hnew
      exact (List.getElem?_eq_some_iff.mp hcall).1

/-- One event keeps the order, with one more use if one begins. -/
theorem Orderly.step {event : Event} (h : Orderly http client uses traffic)
    (hstep : traffic.step http event = some next) :
    Orderly http client (uses ++ event.use?.toList) next := by
  cases event with
  | begin use =>
    cases hstep
    exact h.begin use
  | move index move =>
    obtain ⟨call, hcall, hrest⟩ := Option.bind_eq_some_iff.mp hstep
    obtain ⟨⟨later, progress, happened⟩, hafter, hnext⟩ := Option.bind_eq_some_iff.mp hrest
    cases hnext
    rw [show (Event.move index move).use?.toList = [] from rfl, List.append_nil]
    exact h.move hcall (Progress.moves_of_after hafter)

/-- A run keeps the order, with one more use for each that begins in it. -/
theorem Orderly.run {events : List Event} (h : Orderly http client uses traffic)
    (hrun : traffic.run http events = some next) :
    Orderly http client (uses ++ events.filterMap Event.use?) next := by
  induction events generalizing uses traffic with
  | nil =>
    cases hrun
    rw [List.filterMap_nil, List.append_nil]
    exact h
  | cons event rest ih =>
    obtain ⟨middle, hstep, hrest⟩ := Option.bind_eq_some_iff.mp hrun
    have hmiddle := ih (h.step hstep) hrest
    rw [List.append_assoc] at hmiddle
    have hsplit : (event :: rest).filterMap Event.use? =
        event.use?.toList ++ rest.filterMap Event.use? := by
      rw [List.filterMap_cons]
      cases event.use? <;> rfl
    rw [hsplit]
    exact hmiddle

/-! ### What the order says -/

namespace Orderly

end Orderly

/-! ### One operation after another -/

end

end Traffic

end LedgerWire
