import Parley.Bus.Registry

/-!
# Delivering events

Publishing an event hands it to everyone who listens to its topic at that moment, one after
the other, and is over only when the last of them is done. A listener may publish, subscribe
and unsubscribe while it handles an event; what it publishes is delivered before the next
listener has its turn.

This is a machine with a list of things to do. Its first thing is done, and what that entails
is put in front of the rest, which is what makes deliveries nest. The list of listeners is
taken when the publishing starts, so nothing done in the meantime changes it.
-/

namespace Parley

/-- A thing to do: publish an event, hand one to a listener, or anything else. -/
inductive Work (η ω : Type) where
  | publish (e : Event)
  | deliver (s : Subscription η) (e : Event)
  | act (w : ω)
  deriving Inhabited

/-- How a system of listeners behaves, over its state. -/
structure Delivery (σ η ω : Type) where
  /-- Who listens in a state. -/
  registry : σ → Registry η
  /-- What becomes of the state when an event is about to be delivered. -/
  announce : Event → σ → σ
  /-- What a listener does with an event, and what is to be done next. -/
  react : Subscription η → Event → σ → σ × List (Work η ω)
  /-- What any other thing to do does, and what is to be done next. -/
  perform : ω → σ → σ × List (Work η ω)

namespace Delivery

variable {σ η ω : Type} (d : Delivery σ η ω)

/-- Does the first thing. -/
def step : σ × List (Work η ω) → σ × List (Work η ω)
  | (s, []) => (s, [])
  | (s, .publish e :: rest) =>
    (d.announce e s, ((d.registry s).listening e.topic).map (.deliver · e) ++ rest)
  | (s, .deliver l e :: rest) =>
    let (s, next) := d.react l e s
    (s, next ++ rest)
  | (s, .act w :: rest) =>
    let (s, next) := d.perform w s
    (s, next ++ rest)

/-- Does at most `fuel` things. -/
def run : Nat → σ × List (Work η ω) → σ × List (Work η ω)
  | 0, c => c
  | _, (s, []) => (s, [])
  | fuel + 1, c => run fuel (d.step c)

end Delivery

end Parley
