import ResourceRoutes.Registration.Basic

/-!
# A host that records

The recording host keeps what it is handed, in order. It refuses the routes whose names are in
its refusal list with a conflict on the route's method and path (`SUBSCRIPTION` for a
subscription). It either accepts subscriptions or declines all of them.
-/

namespace ResourceRoutes

/-- A host that records registrations. -/
structure RecordingHost where
  /-- Route names to refuse. -/
  refuse : List String
  /-- Whether subscriptions are accepted rather than declined. -/
  acceptsSubscriptions : Bool
  routes : List HttpRegistration
  subscriptions : List SubscriptionRegistration

/-- A recording host with nothing recorded. -/
def RecordingHost.new (refuse : List String) (acceptsSubscriptions : Bool) : RecordingHost :=
  ⟨refuse, acceptsSubscriptions, [], []⟩

instance : Host RecordingHost where
  route h r :=
    if h.refuse.contains r.id then (h, .error (.routeConflict r.method.name r.path))
    else ({ h with routes := h.routes ++ [r] }, .ok ())
  subscription h r :=
    if h.refuse.contains r.id then (h, .error (.routeConflict "SUBSCRIPTION" r.path))
    else if h.acceptsSubscriptions then ({ h with subscriptions := h.subscriptions ++ [r] }, .ok true)
    else (h, .ok false)

end ResourceRoutes
