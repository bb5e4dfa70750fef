import Parley.Bus.Event
import Parley.Journal

/-!
# Who listens

A registry keeps the listeners of every topic in the order in which they subscribed. Every
subscription has a number of its own that is never used again, and ends by that number.

The numbers have no bound here. The program counts them in sixty-four bits, and does not come to
the end of those: with a subscription every nanosecond it would take five hundred years.
-/

namespace Parley

/-- A subscription of a listener. -/
structure Subscription (η : Type) where
  id : Nat
  topic : Topic
  listener : η
  deriving DecidableEq, Repr, Inhabited

/-- The live subscriptions, oldest first, and the number of the next one. -/
structure Registry (η : Type) where
  next : Nat
  subscriptions : List (Subscription η)
  deriving DecidableEq, Repr, Inhabited

namespace Registry

variable {η : Type}

/-- Nobody listens. -/
def empty : Registry η := ⟨0, []⟩

/-- Subscribes a listener. -/
def subscribe (r : Registry η) (topic : Topic) (listener : η) : Registry η :=
  ⟨r.next + 1, r.subscriptions ++ [⟨r.next, topic, listener⟩]⟩

/-- Ends the subscription of a number. -/
def unsubscribe (r : Registry η) (id : Nat) : Registry η :=
  { r with subscriptions := r.subscriptions.filter (·.id != id) }

/-- The subscriptions to a topic. -/
def listening (r : Registry η) (topic : Topic) : List (Subscription η) :=
  r.subscriptions.filter (·.topic == topic)

/-- How many listen to a topic. -/
def count (r : Registry η) (topic : Topic) : Nat := (r.listening topic).length

/-- The topic of the subscription of a number. -/
def topicOf? (r : Registry η) (id : Nat) : Option Topic :=
  (r.subscriptions.find? (·.id == id)).map (·.topic)

/-- What is noted of a new subscription. -/
def subscribeNote (id : Nat) (topic : Topic) : Note :=
  ⟨.debug, "Subscribed handler " ++ String.ofList (Text.decimal id) ++ " to " ++ topic.name⟩

/-- What is noted of the end of a subscription. -/
def unsubscribeNote (id : Nat) (topic : Topic) : Note :=
  ⟨.debug, "Unsubscribed handler " ++ String.ofList (Text.decimal id) ++ " from " ++ topic.name⟩

/-- What is noted when an event is published. -/
def publishNote (r : Registry η) (e : Event) : Note :=
  let n := r.count e.topic
  if n = 0 then
    ⟨.debug, "Dropping " ++ e.topic.name ++ " from " ++ e.source ++ ": no subscribers"⟩
  else ⟨.debug, "Publishing " ++ e.topic.name ++ " from " ++ e.source ++ " to " ++
    String.ofList (Text.decimal n) ++ " subscriber(s)"⟩

end Registry

end Parley
