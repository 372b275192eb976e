import Tenancy.Invariant.Step

/-!
Where the router delivers an inbound update (`Router.handleTelegramUpdate`,
`forwardToPod`), against the idle controller's eviction, which leaves
`router:endpoint:<id>` in place, the wake fast path, which returns the address of a
Running record as it stands, and the kubelet's reuse of addresses.

* `router_delivers_to_other_tenants_pod`: a run in which an update for tenant `a` is
  posted to tenant `b`'s pod. The router learns `a`'s address from the fast path while
  the idle controller is evicting `a`; the pod goes, `b`'s new pod gets the address, and
  the router forwards to it.
* `delivered_to_tenant_address`: **the router forwards an update for `t` only to an
  address the kubelet once gave a pod named after `t`, and when no address is ever given
  to two differently named pods, the pod holding it is `t`'s own `zeroclaw` pod.**
-/

namespace Tenancy

/-- The kubelet never gives one address to two pods of different names. -/
def AddressesNotReused (log : List Event) : Prop :=
  ∀ ns ns' name name' a, Event.podReady ns name a ∈ log → Event.podReady ns' name' a ∈ log →
    name = name'

/-- Tenant `a` woken, evicted while a router learns its address, and tenant `b` woken on
the address `a`'s pod had: the router, holding `a`'s old address, forwards. -/
def staleForwardRun : List Act :=
  Act.createAndWake 0 "tenants" "a" "10.0.0.1" ++
    [.tick 301000000000, .request .idlePass, .run 2 true, .run 2 true,
     .request (.telegram "a" "hi"), .run 3 true, .run 4 true, .run 3 true, .run 3 true,
     .run 2 true, .tick 30000000000, .podGone "tenants" "zeroclaw-a"] ++
    Act.createAndWake 5 "tenants" "b" "10.0.0.1" ++ [.run 3 true]

/-- The router posts an update for `a` to `b`'s pod. -/
theorem router_delivers_to_other_tenants_pod :
    ¬ ∀ cfg s, Reachable cfg s → ∀ t a p, Event.delivered t a p ∈ s.log → p.tenant = t := by
  intro h
  have := h _ _ (Reachable.runFrom (by decide)) "a" "10.0.0.1"
    ⟨"tenants", "zeroclaw-b", "zeroclaw", "b", "", "", "", .running, "10.0.0.1", false, 5⟩
    (show _ ∈ (Sys.runFrom (Config.orchestrator "tenants" false) staleForwardRun).log by decide)
  exact absurd this (by decide)

/-- **Deliveries go to the tenant's addresses, and to its pod unless addresses are reused.** -/
theorem delivered_to_tenant_address {cfg : Config} {s : Sys} (hs : Reachable cfg s)
    {t a : String} {p : Pod} (hd : Event.delivered t a p ∈ s.log) :
    ReadyAddr s.log t a ∧ (AddressesNotReused s.log → p.tenant = t ∧ p.app = "zeroclaw") := by
  obtain ⟨old, hold, ⟨ns, hr⟩, hp, hip, ha⟩ := hs.inv.log.of_mem hd
  refine ⟨⟨ns, hold hr⟩, fun hu => hp.named t ?_⟩
  have hpr := hp.addr.resolve_left (by rw [hip]; exact ha)
  rw [hip] at hpr
  exact hu _ _ _ _ a (hold hpr) (hold hr)

/-- Tenant `a` woken, then an update for it forwarded. -/
def forwardRun : List Act :=
  Act.createAndWake 0 "tenants" "a" "10.0.0.1" ++
    [.request (.telegram "a" "hi"), .run 2 true, .run 3 true] ++ Act.calls 2 3

/-- After `forwardRun`, the update reached `a`'s pod at `10.0.0.1`, an address `a`'s pod was
seen ready at; while no address is reused, every pod an update for `a` reached there is `a`'s
own ZeroClaw pod. -/
theorem delivered_to_tenant_address_after_wake :
    Reachable (Config.orchestrator "tenants" false)
        (Sys.runFrom (Config.orchestrator "tenants" false) forwardRun) ∧
      Event.delivered "a" "10.0.0.1"
          ⟨"tenants", "zeroclaw-a", "zeroclaw", "a", "", "", "", .running, "10.0.0.1", false, 2⟩ ∈
        (Sys.runFrom (Config.orchestrator "tenants" false) forwardRun).log ∧
      ReadyAddr (Sys.runFrom (Config.orchestrator "tenants" false) forwardRun).log "a" "10.0.0.1" ∧
      ∀ p, Event.delivered "a" "10.0.0.1" p ∈ (Sys.runFrom (Config.orchestrator "tenants" false) forwardRun).log →
        AddressesNotReused (Sys.runFrom (Config.orchestrator "tenants" false) forwardRun).log →
          p.tenant = "a" ∧ p.app = "zeroclaw" :=
  have hs := Reachable.runFrom (by decide)
  have hd := by decide
  ⟨hs, hd, (delivered_to_tenant_address hs hd).1, fun _ hp => (delivered_to_tenant_address hs hp).2⟩

end Tenancy
