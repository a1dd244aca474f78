import TrpcService.Channels.Feishu

namespace TrpcService.Web

open Data Storage Channels.Feishu

/-! The bindings of the Feishu gateway.  The routes that it has looked up are
remembered, and stand in for the repository during an outage. -/

structure BindingRoute where
  binding : ChannelBinding
  tenantActive : Bool := true
  deriving DecidableEq

structure CachedRoute where
  route : BindingRoute
  expiresAt : Time
  deriving DecidableEq

inductive Resolution where
  | found (route : BindingRoute)
  | missing
  /-- The database cannot be reached. -/
  | outage
  deriving DecidableEq

inductive GatewayError where
  | lookupError (message : String)
  | outage
  deriving DecidableEq, Repr

structure FeishuGatewayService where
  bindingCacheSeconds : Int := 300
  allowStaleBindingCache : Bool := true

open FeishuGatewayService

abbrev Routes := Dict String CachedRoute

/-- A lookup at the moment when the repository has answered. -/
structure Lookup where
  bindingId : String
  resolution : Resolution
  now : Time
  deriving DecidableEq

def BindingRoute.isServed (route : BindingRoute) : Bool :=
  route.binding.channel = .feishu && route.binding.enabled && route.tenantActive

def Resolution.rejects : Resolution → Bool
  | .found route => !route.isServed
  | .missing => true
  | .outage => false

namespace FeishuGatewayService

variable (service : FeishuGatewayService)

def binding (lookup : Lookup) (routes : Routes) : Except GatewayError BindingRoute × Routes :=
  match lookup.resolution with
  | .outage =>
      match routes.get? lookup.bindingId with
      | none => (.error .outage, routes)
      | some cached =>
          if service.allowStaleBindingCache = false ∨ cached.expiresAt ≤ lookup.now ∨
              cached.route.binding.enabled = false ∨
              cached.route.tenantActive = false then
            (.error .outage, routes)
          else (.ok cached.route, routes)
  | .missing => (.error (.lookupError "binding not found"), routes)
  | .found route =>
      if route.isServed = false then (.error (.lookupError "binding not found"), routes)
      else (.ok route, routes.set lookup.bindingId
          ⟨route, lookup.now + seconds service.bindingCacheSeconds⟩)

def remembered : List Lookup → Routes
  | [] => .empty
  | lookup :: earlier => (service.binding lookup (remembered earlier)).2

end FeishuGatewayService

def latestAnswer (bindingId : String) (history : List Lookup) : Option Resolution :=
  (history.find? fun lookup => lookup.bindingId = bindingId && lookup.resolution ≠ .outage).map
      Lookup.resolution

def feishuRoute : BindingRoute where
  binding := ⟨"b", "acme", .feishu, "cli", .empty, true⟩

/-- A binding that has just been removed is served from memory. -/
theorem revoked_binding_is_served : ∃ history lookup route,
      (latestAnswer lookup.bindingId history).any Resolution.rejects = true ∧
      lookup.resolution = .outage ∧
      (binding {} lookup (remembered {} history)).1 = .ok route := by
  exact ⟨[⟨"b", .missing, seconds 1⟩, ⟨"b", .found feishuRoute, 0⟩],
    ⟨"b", .outage, seconds 2⟩, feishuRoute, by decide +kernel, rfl,
    by decide +kernel⟩

/-- The route of a binding that a lookup serves, and when. -/
def Lookup.serves (lookup : Lookup) (bindingId : String) : Option (BindingRoute × Time) :=
  match lookup.resolution with
  | .found route =>
      if lookup.bindingId = bindingId ∧ route.isServed = true then some (route, lookup.now)
      else none
  | _ => none

def latestServed (bindingId : String) (history : List Lookup) : Option (BindingRoute × Time) :=
  history.findSome? (·.serves bindingId)

theorem get?_remembered (service : FeishuGatewayService)
    (history : List Lookup) (bindingId : String) :
    (service.remembered history).get? bindingId = (latestServed bindingId history).map fun served =>
        ⟨served.1, served.2 + seconds service.bindingCacheSeconds⟩ := by
  induction history with
  | nil => rfl
  | cons lookup earlier induction =>
    have skipped (silent : lookup.serves bindingId = none) : (service.remembered earlier).get?
      bindingId = (latestServed bindingId (lookup :: earlier)).map fun served =>
            ⟨served.1, served.2 + seconds service.bindingCacheSeconds⟩ := by
      rw [latestServed, List.findSome?_cons, silent]
      exact induction
    rw [remembered]
    fun_cases binding service lookup (service.remembered earlier) with
    | case1 answered => exact skipped (by rw [Lookup.serves, answered])
    | case2 answered => exact skipped (by rw [Lookup.serves, answered])
    | case3 answered => exact skipped (by rw [Lookup.serves, answered])
    | case4 answered => exact skipped (by rw [Lookup.serves, answered])
    | case5 route answered refused =>
      apply skipped
      simp [Lookup.serves, answered, refused]
    | case6 route answered served =>
      have served : route.isServed = true := Bool.not_eq_false _ ▸ served
      rw [Dict.get?_set]
      by_cases same : lookup.bindingId = bindingId
      · have serves : lookup.serves bindingId = some (route, lookup.now) := by
          simp [Lookup.serves, answered, same, served]
        rw [if_pos same, latestServed, List.findSome?_cons, serves]
        rfl
      · rw [if_neg same]
        apply skipped
        simp [Lookup.serves, answered, same]

theorem isServed_of_latestServed {bindingId : String} {history : List Lookup}
    {served : BindingRoute × Time} (latest : latestServed bindingId history = some served) :
    served.1.isServed = true := by
  obtain ⟨lookup, _, serves⟩ := List.exists_of_findSome?_eq_some latest
  unfold Lookup.serves at serves
  split at serves
  · split at serves
    · cases serves
      exact (‹_ ∧ _›).2
    · cases serves
  · cases serves

/-- A binding stays revoked during an outage exactly if nothing is served from
memory, or what was served last has expired. -/
theorem revoked_binding_stays_revoked (service : FeishuGatewayService) (history : List Lookup)
    (lookup : Lookup) (outage : lookup.resolution = .outage) :
    (service.binding lookup (service.remembered history)).1 = .error .outage ↔
      service.allowStaleBindingCache = false ∨
        ∀ served, latestServed lookup.bindingId history = some served →
          served.2 + seconds service.bindingCacheSeconds ≤ lookup.now := by
  rw [binding, outage, get?_remembered]
  cases latest : latestServed lookup.bindingId history with
  | none => simp
  | some served =>
    have enabled := isServed_of_latestServed latest
    simp only [BindingRoute.isServed, Bool.and_eq_true] at enabled
    simp only [Option.map_some, enabled.1.2, enabled.2, Bool.true_eq_false, or_false,
      Option.some.injEq, forall_eq']
    split
    case isTrue stale => exact iff_of_true rfl stale
    case isFalse trusted => exact iff_of_false (by simp) trusted

theorem revoked_binding_stays_revoked_after_expiry :
    (binding {} ⟨"b", .outage, seconds 400⟩ (remembered {}
        [⟨"b", .missing, seconds 1⟩, ⟨"b", .found feishuRoute, 0⟩])).1 =
      .error .outage := by
  refine (revoked_binding_stays_revoked {}
    [⟨"b", .missing, seconds 1⟩, ⟨"b", .found feishuRoute, 0⟩]
    ⟨"b", .outage, seconds 400⟩ rfl).mpr (.inr ?_)
  rintro served ⟨⟩
  decide

end TrpcService.Web
