import RouteBus.Proofs.Bus.Deals

/-!
# Aloof from connections

Tasks that neither open nor close a connection. A quiet host has no others, so in its bus
and router connections are opened and closed by the steps of routes alone, and by callers.
-/

namespace RouteBus

open RouteBus.Task (Ensures Runs)

/-- Every step has to do with no connection. -/
def Aloof (t : Task (Hub ε ν κ) α) : Prop := t.Keeps Deed

structure Host.Quiet (host : Host ε ν κ) : Prop extends host.Lawful where
  aloof : host.Within (@Aloof ε ν κ)

def Stable (p : Hub ε ν κ → Prop) : Prop := ∀ hub hub', Aside hub hub' → p hub → p hub'

variable {ε ν κ α : Type} {hub hub' : Hub ε ν κ} {host : Host ε ν κ} {pre : Hub ε ν κ → Prop}

theorem Aloof.closed : Closed Deed (@Aloof ε ν κ) := 
  (Composed.keeps Routine.deed).closed Postal.deed

theorem aside_refl (hub : Hub ε ν κ) : Aside hub hub := .of_history rfl rfl rfl

theorem stable_aside (first : Hub ε ν κ) : Stable (Aside first) := fun _ _ h ha => ha.trans h

theorem Aloof.ensures {t : Task (Hub ε ν κ) α} (h : Aloof t) (stable : Stable pre) :
    Ensures Aside pre t fun _ => pre :=
  Task.Keeps.ensures h (fun hub hub' hd => stable hub hub' hd.aside) stable

theorem ensures_record (stable : Stable pre) (event : Hub ε ν κ → Event)
    (h : ∀ hub, (event hub).ofConnection = false) :
    Ensures Aside pre (Task.modify fun hub => hub.record (event hub)) fun _ => pre :=
  Task.ensures_modify fun hub => stable hub _ (.of_record (h hub) rfl rfl rfl)

-- ---------------------------------------------------------------------------
-- Route steps
-- ---------------------------------------------------------------------------

/-- Of the steps of the bus only fetches are aloof. -/
def RouteStep.Aloof : RouteStep κ → Prop
  | .bus operation _ _ => operation = .fetch
  | .go .. | .custom _ => True

theorem aloof_perform (quiet : host.Quiet) (step : RouteStep κ) (h : step.Aloof)
    (params : Params) : Aloof (Router.perform host step params) := by
  refine Aloof.closed.perform step params ?_ fun own => quiet.aloof.perform own params
  rintro operation template args rfl
  obtain rfl : operation = .fetch := h
  exact Aloof.closed.map _ (Aloof.closed.fetchTarget quiet.aloof.hear quiet.aloof.request _)

def Chain.Aloof (chain : RouteChain κ) : Prop := chain.Every RouteStep.Aloof

theorem aloof_chain (quiet : host.Quiet) (chain : RouteChain κ) (h : chain.Aloof)
    (params : Params) : Aloof (chain.run (Router.perform host) params) :=
  Aloof.closed.chain (aloof_perform quiet) chain h params

theorem aloof_runChains (quiet : host.Quiet) (chains : List (RouteChain κ))
    (h : ∀ chain ∈ chains, chain.Aloof) (params : Params) :
    Aloof (Router.runChains host chains params) :=
  Aloof.closed.runChains chains (fun chain hc => aloof_chain quiet chain (h chain hc)) params

theorem aloof_fireAll (quiet : host.Quiet) (location : String) (index : Nat)
    (routes : List (Route κ)) (h : ∀ route ∈ routes, ∀ chain ∈ route.chains, chain.Aloof) :
    Aloof (Router.fireAll host location index routes) :=
  Aloof.closed.fireAll _ _ _ fun route hr => aloof_runChains quiet route.chains (h route hr)

end RouteBus
