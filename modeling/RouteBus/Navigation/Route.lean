import RouteBus.Chain
import RouteBus.Event
import RouteBus.Navigation.Location

/-!
# Routes

A route is a template for locations with a list of chains to run, one after
another, on the parameters of a location that it matches.
-/

namespace RouteBus

/-- A step of a route chain. Arguments are built from the parameters that reach it. -/
inductive RouteStep (κ : Type) where
  | bus (operation : Operation) (template : Template) (args : Params → List String)
  | go (template : Template) (args : Params → List String)
  /-- A step that the host of the router knows how to do. -/
  | custom (step : κ)

namespace RouteStep

variable {κ : Type}

def busAt (operation : Operation) (template : String) (args : Params → List String) :
    Except TemplateError (RouteStep κ) :=
  (.bus operation · args) <$> Template.parse template

def goTo (template : String) (args : Params → List String) : Except TemplateError (RouteStep κ) :=
  (.go · args) <$> Template.parse template

theorem busAt_of_parse (parsed : Template.parse text = .ok t) (operation : Operation)
    (args : Params → List String) :
    (busAt operation text args : Except TemplateError (RouteStep κ)) =
      .ok (.bus operation t args) := by
  rw [busAt, parsed]
  rfl

theorem goTo_of_parse (parsed : Template.parse text = .ok t) (args : Params → List String) :
    (goTo text args : Except TemplateError (RouteStep κ)) = .ok (.go t args) := by
  rw [goTo, parsed]
  rfl

end RouteStep

abbrev RouteChain (κ : Type) := Chain (RouteStep κ)

structure Route (κ : Type) where
  template : Template
  chains : List (RouteChain κ)

structure Router (κ : Type) where
  name : String
  location : Location
  /-- In order of registration; routes are never taken out. -/
  routes : List (Route κ)

namespace Router

variable {κ : Type}

def new (name location : String) : Router κ := ⟨name, .new location, []⟩

def currentParams (router : Router κ) (template : String) : Except TemplateError (Option Params) :=
  (·.captures router.location.current) <$> Template.parse template

def isCurrent (router : Router κ) (template : String) : Except TemplateError Bool :=
  (·.test router.location.current) <$> Template.parse template

end Router

end RouteBus
