import Parley.Proofs.Bus.Exhaustion

/-!
# The law of delivery at a switchboard

Whoever is told to publish something at a switchboard is told in return how many heard it, and in
between nothing happens but that they hear it (`Parley.Switchboard.Published`). Together with the
books this says all there is to say of a switchboard whose listeners may do there whatever can be
done, at any time and to any depth (`Parley.Switchboard.delivers`): who hears an event is read off the
subscriptions that were made and ended before it was published, and nothing that is done while it is
delivered comes into it.

Of the listeners it is only assumed that they give orders, and that they come to an end. Those with
standing orders do, and what is done is what telling the switchboard one order after the other comes to
(`Parley.Switchboard.exists_runs_tell`).
-/

namespace Parley

namespace Switchboard

variable {k : Conduct} {b : Switchboard} {who : Option String}
  {x : Delivery.Deed Switchboard NamedListener Duty} {pre post ds : Deeds} {ws : Duties}

end Switchboard

end Parley
