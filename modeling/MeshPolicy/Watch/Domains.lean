import MeshPolicy.Authority.Domain
import MeshPolicy.Resource.SignedDomain
import MeshPolicy.Watch.Reaction

/-! # The cache of domains

The domains that are copied into the cluster, by the name of their resource. The rules loop is poked
exactly when the answer for some name changes.

* `Domain.ofSigned`: the snapshot of a signed domain. An effect that cannot be read denies.
* `DomainCache.get`: the answer for a name.
* `apply`, `delete`, `reset`: the events of the watch.
-/

namespace MeshPolicy
set_option autoImplicit false

/-! ## Snapshots of signed domains -/

/-- The effect of an assertion: a missing or empty text allows, one that names no effect denies. -/
def Signed.Assertion.readEffect (a : Signed.Assertion) : Except Effect.Unknown Effect :=
  match a.effect with
  | none => .ok .allow
  | some text => if text = "" then .ok .allow else Effect.parse text

def Assertion.ofSigned (a : Signed.Assertion) : Assertion where
  role := a.role
  action := a.action
  resource := a.resource
  effect := match a.readEffect with
    | .ok effect => effect
    | .error _ => .deny

def Policy.ofSigned (policy : Signed.Policy) : Policy where
  name := policy.name
  assertions := policy.assertions.map Assertion.ofSigned

def Role.ofSigned (role : Signed.Role) : Role where
  name := role.name
  members := role.memberNames

def SignedDomain.policies (spec : SignedDomain) : List Signed.Policy :=
  match spec.domain.policies with
  | none => []
  | some policies => policies.contents.policies

/-- The snapshot of a signed domain under the name of its resource. -/
def Domain.ofSigned (name : String) (spec : SignedDomain) : Domain where
  name := name
  roles := spec.domain.roles.map Role.ofSigned
  policies := spec.policies.map Policy.ofSigned

def SignedDomain.events (spec : SignedDomain) : List Log.Event :=
  (spec.policies.flatMap Signed.Policy.assertions).filterMap fun a =>
    match a.readEffect with
    | .ok _ => none
    | .error error => some
      ⟨.warn, "Ignoring assertion", [("role", a.role), ("error", error.message)]⟩

/-! ## The cache -/

structure DomainCache where
  domains : SortedMap String Domain := ∅
  /-- Whether a complete listing was seen. -/
  synced : Bool := false

namespace DomainCache

def get (cache : DomainCache) : Lookup := fun name =>
  match cache.domains.get? name with
  | some domain => .ok domain
  | none => .error (.notFound name)

def apply (cache : DomainCache) (name : String) (spec : SignedDomain) : Reaction DomainCache :=
  let domain := Domain.ofSigned name spec
  if cache.domains.get? name = some domain then
    { state := cache
      events := spec.events ++ [⟨.trace, "Domain unchanged", [("name", name)]⟩] }
  else
    { state := { cache with domains := cache.domains.insert name domain }
      events := spec.events ++
        [⟨.debug, "Domain updated", [("name", name), ("roles", domain.roles.length)]⟩]
      pokes := true }

def delete (cache : DomainCache) (name : String) : Reaction DomainCache :=
  if cache.domains.contains name then
    { state := { cache with domains := cache.domains.erase name }
      events := [⟨.debug, "Domain removed", [("name", name)]⟩]
      pokes := true }
  else { state := cache }

/-- A complete listing, in which a later resource wins over an earlier one of the same name. -/
def reset (cache : DomainCache) (listing : List (String × SignedDomain)) : Reaction DomainCache :=
  let domains : SortedMap String Domain :=
    .ofList (listing.map fun e => (e.1, Domain.ofSigned e.1 e.2))
  { state := { domains, synced := true }
    events := listing.flatMap fun e => e.2.events
    pokes := domains ≠ cache.domains }

end DomainCache

end MeshPolicy
