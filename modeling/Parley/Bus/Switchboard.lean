import Parley.Bus.Delivery
import Parley.Numeral.Total

/-!
# A bus with named listeners

A switchboard is a bus whose listeners have names and standing orders. A listener that hears
an event carries out its orders one after the other, as long as it may do so; orders can
publish, subscribe and unsubscribe, so everything that can happen on a bus while an event is
being delivered can happen here.

One who subscribes under a name in use takes it over: the new subscription is made first, then
the old one ends. A switchboard that was closed refuses all orders except to unsubscribe,
which is then only a matter of the name.

Orders hold orders, but every standing order is carried out a limited number of times. So the
number of things that can ever happen is bounded (`Switchboard.workBound`).
-/

namespace Parley

/-- Something a switchboard can be told to do. -/
inductive Order where
  /-- Let a name listen to a topic and carry out orders for each of the first `limit`
  events. -/
  | subscribe (name : String) (topic : Topic) (orders : List Order) (limit : Nat)
  | unsubscribe (name : String)
  /-- Publish a signal in the name of a source; what it carries is made on the spot. -/
  | publish (source : String) (signal : Supply → Signal × Supply)
  /-- How many listen to every topic. -/
  | counts
  | close
  deriving Inhabited

mutual

/-- The most orders that are ever carried out on account of an order, itself included. -/
def Order.weight : Order → Nat
  | .subscribe _ _ orders limit => 1 + limit * Order.weights orders
  | _ => 1

/-- The same for a list of orders. -/
def Order.weights : List Order → Nat
  | [] => 0
  | o :: os => o.weight + Order.weights os

end

/-- A listener: its name and its standing orders. -/
structure NamedListener where
  name : String
  orders : List Order
  deriving Inhabited

/-- What an order gives back. -/
inductive OrderResult where
  | done
  | subscribed (id : Nat) (topic : Topic)
  /-- Whether the name was known. -/
  | known (b : Bool)
  | count (n : Nat)
  | counts (ns : List Nat)
  /-- The switchboard is closed. -/
  | refused
  deriving Repr, BEq, Inhabited

/-- Something noticed at a switchboard. -/
inductive Sighting where
  | note (n : Note)
  | heard (name : String) (e : Event)
  /-- An order gave something back; it is a listener's or came from outside. -/
  | gave (name : Option String) (r : OrderResult)
  deriving Inhabited

/-- A thing to do besides publishing and delivering. -/
inductive Duty where
  | order (name : Option String) (o : Order)
  /-- What an order gives back once everything it published is delivered. -/
  | give (name : Option String) (r : OrderResult)
  deriving Inhabited

/-- A switchboard. -/
structure Switchboard where
  registry : Registry NamedListener := .empty
  /-- The names in use and the numbers of their subscriptions. -/
  names : List (String × Nat) := []
  /-- How often each subscription has its orders carried out yet, by its number. -/
  runs : List (Nat × Nat) := []
  isOpen : Bool := true
  supply : Supply
  trace : List Sighting := []
  deriving Inhabited

namespace Switchboard

/-- Things to do at a switchboard. -/
abbrev Duties := List (Work NamedListener Duty)

/-- Writes to the trace, latest first. -/
def observe (b : Switchboard) (s : Sighting) : Switchboard := { b with trace := s :: b.trace }

/-- The number of the subscription under a name. -/
def numberOf? (b : Switchboard) (name : String) : Option Nat :=
  (b.names.find? (·.1 == name)).map (·.2)

/-- How often a subscription has its orders carried out yet. -/
def runsLeft (b : Switchboard) (id : Nat) : Nat := ((b.runs.find? (·.1 == id)).map (·.2)).getD 0

/-- Ends the subscription of a number. -/
def endSubscription (b : Switchboard) (id : Nat) : Switchboard :=
  match b.registry.topicOf? id with
  | some topic =>
    { b with registry := b.registry.unsubscribe id }.observe
      (.note (Registry.unsubscribeNote id topic))
  | none => b

/-- Lets a name listen; a subscription it had before ends. -/
def subscribe (b : Switchboard) (name : String) (topic : Topic) (orders : List Order)
    (limit : Nat) : Switchboard :=
  let id := b.registry.next
  let old := b.numberOf? name
  let b := { b with
    registry := b.registry.subscribe topic ⟨name, orders⟩
    names := (name, id) :: b.names.filter (·.1 != name)
    runs := (id, limit) :: b.runs }.observe (.note (Registry.subscribeNote id topic))
  match old with
  | some id => b.endSubscription id
  | none => b

/-- Ends what is subscribed under a name. -/
def unsubscribe (b : Switchboard) (name : String) : Switchboard × Bool :=
  match b.numberOf? name with
  | some id =>
    let b := { b with names := b.names.filter (·.1 != name) }
    (if b.isOpen then b.endSubscription id else b, true)
  | none => (b, false)

/-- Carries out an order: the switchboard after it, what is to be published, and what the
order gives back once that is done. -/
def carryOut (b : Switchboard) (o : Order) : Switchboard × Duties × OrderResult :=
  match o with
  | .unsubscribe name =>
    let (b, known) := b.unsubscribe name
    (b, [], .known known)
  | o =>
    if !b.isOpen then (b, [], .refused)
    else
      match o with
      | .subscribe name topic orders limit =>
        (b.subscribe name topic orders limit, [], .subscribed b.registry.next topic)
      | .publish source signal =>
        let (s, supply) := signal b.supply
        ({ b with supply }, [.publish ⟨source, s⟩], .count (b.registry.count s.topic))
      | .counts => (b, [], .counts (Topic.all.map b.registry.count))
      | .close => ({ b with isOpen := false }, [], .done)
      | .unsubscribe _ => (b, [], .done)

/-- What a listener does with an event: it has its orders carried out while it may. -/
def react (b : Switchboard) (s : Subscription NamedListener) (e : Event) :
    Switchboard × Duties :=
  let b := b.observe (.heard s.listener.name e)
  match b.runsLeft s.id with
  | 0 => (b, [])
  | n + 1 =>
    ({ b with runs := (s.id, n) :: b.runs.filter (·.1 != s.id) },
      s.listener.orders.map fun o => .act (.order (some s.listener.name) o))

/-- Does one of the things to do besides publishing and delivering. -/
def perform (b : Switchboard) : Duty → Switchboard × Duties
  | .order name o =>
    let (b, next, r) := b.carryOut o
    (b, next ++ [.act (.give name r)])
  | .give name r => (b.observe (.gave name r), [])

/-- A switchboard as a system of listeners. -/
def delivery : Delivery Switchboard NamedListener Duty where
  registry := registry
  announce e b := b.observe (.note (b.registry.publishNote e))
  react := fun s e b => b.react s e
  perform w b := b.perform w

/-- The most orders that are still carried out on account of the subscriptions there are. -/
def standingWeight (b : Switchboard) : Nat :=
  Numeral.total (b.registry.subscriptions.map fun s =>
    b.runsLeft s.id * Order.weights s.listener.orders)

/-- A bound on the number of things that happen on account of one order: orders are carried
out, every one of them publishes at most once, and no more listen than have subscribed. -/
def workBound (b : Switchboard) (o : Order) : Nat :=
  let orders := o.weight + b.standingWeight
  orders * (orders + b.registry.subscriptions.length + 4) + 1

/-- Gives an order from outside and does everything there is to do on account of it. -/
def tell (b : Switchboard) (o : Order) : Switchboard :=
  (delivery.run (b.workBound o) (b, [.act (.order none o)])).1

end Switchboard

end Parley
